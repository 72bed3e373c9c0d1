import CxxTrees.Proofs.Calls.Edges
import CxxTrees.Proofs.Calls.FirstWalk
import CxxTrees.Proofs.Frontend.Descents
import CxxTrees.Proofs.Frontend.PostOrder
import CxxTrees.Proofs.Snapshot.Links

/-!
# Calls of function templates

A function template is called by way of its pattern, the first function that is declared
below it. Where children run in no circle the search for the pattern ends, and every call of
the template is recorded with the id of the pattern, as the callee and as the method.
-/

namespace CxxTrees
namespace Frontend
variable {fe : Frontend} {c template : Cursor} {facts : CursorFacts}

/-! ### Calls without a body to follow -/

/-- The type of the expression at `c` can be built. -/
def IsTyped (fe : Frontend) (c : Cursor) : Prop :=
  ∃ facts type built, fe.cursor? c = some facts ∧ facts.type = some type ∧
    (fe.typeAt ⟨c, type⟩).outcome = .ok built

section
variable (options : Options) (collect : Cursor → Run Unit) (scope : CallScope)
  {target : Option CallTarget} (found : fe.callTarget facts = .ok target)
  (bodiless : target.bind CallTarget.body = none)
include found bodiless

theorem run_callWith (s : RunState) :
    ∃ t, (fe.callWith options collect scope facts).run s =
      .ok (target.map fun target => scope.call target.callee target.method) t ∧
        t.graph = s.graph := by
  rw [callWith, Run.run_look found]
  cases target with
  | none => exact ⟨_, rfl, rfl⟩
  | some target =>
    have body : target.body = none := bodiless
    simp only [body]
    exact ⟨s, rfl, rfl⟩

variable (known : fe.cursor? c = some facts) (written : facts.IsWrittenCall) (typed : fe.IsTyped c)
include known written typed

theorem run_expressionWith (s : RunState) :
    ∃ type t, (fe.expressionWith options collect scope c).run s =
      .ok (target.map fun target => .mk type (.call (scope.call target.callee target.method))) t ∧
        t.graph = s.graph := by
  obtain ⟨facts', type, built, known', link, typed⟩ := typed
  obtain rfl := Option.mem_unique known known'
  obtain ⟨t, called, same⟩ := run_callWith options collect scope found bodiless
    (s.noteAll (fe.typeAt ⟨c, type⟩).events)
  rw [RunState.graph_noteAll] at same
  rw [expressionWith, Run.run_look (cursor_of_known known)]
  simp only [link, typeIn_run]
  rw [Run.run_bind (Run.run_build typed s), if_pos (by rw [written.1]; rfl),
    if_neg (not_not.mpr written.2), Run.run_bind called]
  cases target with
  | none => exact ⟨built, t, rfl, same⟩
  | some target => exact ⟨built, t, rfl, same⟩

/-- A call that leads to no body is recorded at once, if it has a target. -/
theorem run_recordWith (own : EntityId) (s : RunState) :
    ∃ t, (fe.recordWith options collect scope own c).run s = .ok () t ∧
      t.graph = target.elim s.graph fun target =>
        s.graph.record own (scope.call target.callee target.method) := by
  obtain ⟨type, t, expressed, same⟩ :=
    run_expressionWith options collect scope found bodiless known written typed s
  rw [recordWith, Run.run_look (cursor_of_known known), if_pos written.1, Run.run_bind expressed]
  cases target with
  | none => exact ⟨t, rfl, same⟩
  | some target =>
    refine ⟨_, rfl, ?_⟩
    rw [Option.elim_some, ← same]

end

/-! ### Templates -/

def entity? (fe : Frontend) (c : Cursor) : Option EntityId := (fe.cursor? c).map (·.entity)

/-- A call of a function template is written at `c`. -/
def CallsTemplateAt (fe : Frontend) (c template : Cursor) : Prop :=
  ∃ facts target, fe.cursor? c = some facts ∧ facts.IsWrittenCall ∧
    facts.referenced = some template ∧ fe.cursor? template = some target ∧
    target.kind = .functionTemplate

theorem callTarget_of_template {target : CursorFacts} {pattern : Option Cursor}
    (named : facts.referenced = some template) (known : fe.cursor? template = some target)
    (kind : target.kind = .functionTemplate)
    (found : fe.firstBelow (·.kind == .functionDecl) template = .ok pattern) :
    fe.callTarget facts =
      .ok ((pattern.bind fe.entity?).map fun id => { callee := id, method := id }) := by
  simp only [callTarget, named, cursor_of_known known, bind, Except.bind, kind, found]
  cases pattern with
  | none => rfl
  | some pattern =>
    obtain ⟨declared, known'⟩ := firstBelow_hasCursor found
    simp only [cursor_of_known known', Option.bind_some, entity?, known', Option.map_some]
    rfl

/-- A call in a scope, of a function that is callee and called method in one. -/
def callIn (scope : CallScope) (id : EntityId) : Call where
  caller := scope.ofClass.or scope.function
  callerMethod := scope.function
  callee := id
  calleeMethod := id

/-- The call at `c` is recorded with the id, if there is one, as callee and as method: at once
where `c` is visited, whatever happened before, and so in what a walk that is answered leaves. -/
structure RecordsAs (fe : Frontend) (c : Cursor) (id : Option EntityId) : Prop where
  visit : fe.IsTyped c → ∀ options collect scope own s, ∃ t,
    (fe.recordWith options collect scope own c).run s = .ok () t ∧
      t.graph = id.elim s.graph fun id => s.graph.record own (callIn scope id)
  walk : ∀ (s : Session) request f own caller method body later, s.frontend = fe →
    s.Walks request f → (s.ask request).1.isOk = true → fe.HasEntity f own →
    fe.Attributes f caller method → fe.OrderBelow f body → c ∈ body → ∀ id' ∈ id,
      { caller, callerMethod := method, callee := id', calleeMethod := id' } ∈
        ((s.ask request).2.askAll later).2.graph.callsFrom own

theorem recordsAs_of_target {id : Option EntityId} (known : fe.cursor? c = some facts)
    (written : facts.IsWrittenCall)
    (found : fe.callTarget facts = .ok (id.map fun id => { callee := id, method := id })) :
    fe.RecordsAs c id := by
  constructor
  case visit =>
    intro typed options collect scope own s
    have bodiless : (id.map fun id => ({ callee := id, method := id } : CallTarget)).bind
        CallTarget.body = none := by cases id <;> rfl
    obtain ⟨t, run, graph⟩ :=
      run_recordWith options collect scope found bodiless known written typed own s
    refine ⟨t, run, graph.trans ?_⟩
    cases id <;> rfl
  case walk =>
    rintro s request f own caller method body later rfl walked answered entity attributed below
      member id' is
    have read := Session.hasRead_after walked later
    rw [answered] at read
    obtain ⟨facts', scope', body', known', seen', below', calls⟩ := hasBodyCalls_of_hasRead read
    obtain rfl := hasEntity_unique entity ⟨facts', known', rfl⟩
    obtain ⟨rfl, rfl⟩ := attributes_unique (attributes_of_scope seen') attributed
    obtain rfl := orderBelow_unique below below'
    rw [calls]
    refine List.mem_filterMap.mpr ⟨c, member, ?_⟩
    rw [callAt_written known written found, Option.mem_def.mp is]
    rfl

/-- Where children run in no circle, looking for the pattern of a function template ends, and
only a child outside of the table stops it. If all that is below the template is in the table,
the pattern is the first function declared there in source order, at any depth, or there is none
and no such function. The calls of the template are recorded as calls of the pattern. -/
theorem pattern_of_template (acyclic : ∀ c, ¬ Relation.TransGen fe.Child c c) :
    (∀ stop, fe.firstBelow (·.kind == .functionDecl) template = .error stop →
      stop = .outsideTable) ∧
    ((∀ c, Relation.ReflTransGen fe.Child template c → fe.HasCursor c) →
      ∃ order, fe.OrderBelow template order ∧
        let pattern := order.find? (fe.holds (·.kind == .functionDecl))
        fe.firstBelow (·.kind == .functionDecl) template = .ok pattern ∧
          ∀ c, fe.CallsTemplateAt c template → fe.RecordsAs c (pattern.bind fe.entity?)) := by
  refine ⟨firstBelow_stopsBy_of_inside (.inr acyclic) fun d path => .inl rfl, fun known => ?_⟩
  obtain ⟨order, below⟩ := exists_orderBelow acyclic known
  have found : fe.firstBelow (·.kind == .functionDecl) template = .ok _ :=
    firstBelow_eq acyclic known below
  refine ⟨order, below, found, ?_⟩
  intro c calls
  obtain ⟨facts, target, known', written, named, declared, kind⟩ := calls
  exact recordsAs_of_target known' written (callTarget_of_template named declared kind found)

/-- A function template with a class in it that declares a function, in front of the function
that the template is written for. A member function calls it. -/
def nestedPattern : Snapshot where
  cursors := #[
    { kind := .functionTemplate, spelling := "max", entity := ⟨"template"⟩,
      children := [.afterCount 1, .afterCount 2, .afterCount 5] },
    { kind := .templateTypeParameter, spelling := "T", entity := ⟨"T"⟩ },
    { kind := .structDecl, spelling := "Order", entity := ⟨"Order"⟩,
      children := [.afterCount 3, .afterCount 4] },
    { kind := .fieldDecl, spelling := "up", entity := ⟨"up"⟩ },
    { kind := .functionDecl, spelling := "less", entity := ⟨"less"⟩ },
    { kind := .functionDecl, spelling := "max", entity := ⟨"max"⟩ },
    { kind := .structDecl, spelling := "Caller", entity := ⟨"Caller"⟩ },
    { kind := .cxxMethod, spelling := "f", entity := ⟨"f"⟩, semanticParent := some (.afterCount 6),
      children := [.afterCount 8] },
    { kind := .compoundStmt, spelling := "", entity := ⟨"body"⟩, children := [.afterCount 9] },
    { kind := .callExpr, spelling := "max", entity := ⟨"call"⟩, type := some (.afterCount 0),
      referenced := some (.afterCount 0), tokens := ["max", "(", "1", ",", "2", ")"] }]
  types := #[{ kind := .int, spelling := "int" }]

theorem orderBelow_nestedPattern :
    nestedPattern.frontend.OrderBelow (.afterCount 0)
      [.afterCount 1, .afterCount 2, .afterCount 3, .afterCount 4, .afterCount 5] := by
  have members : nestedPattern.frontend.SourceOrder [.afterCount 3, .afterCount 4] _ :=
    .cons rfl .nil (.cons rfl .nil .nil)
  have below : nestedPattern.frontend.OrderBelow (.afterCount 0) _ :=
    ⟨_, rfl, .cons rfl .nil (.cons rfl members (.cons rfl .nil .nil))⟩
  exact below

theorem walks_nestedPattern :
    let s := Session.start nestedPattern.frontend {}
    s.Walks (.calls (.afterCount 7)) (.afterCount 7) ∧
      (s.ask (.calls (.afterCount 7))).1.isOk = true :=
  ⟨⟨[.afterCount 7], rfl, List.mem_singleton_self _⟩, rfl⟩

theorem pattern_of_template_nested :
    let fe := nestedPattern.frontend
    let s := Session.start fe {}
    (∀ c, ¬ Relation.TransGen fe.Child c c) ∧
    (∀ c, Relation.ReflTransGen fe.Child (.afterCount 0) c → fe.HasCursor c) ∧
    fe.CallsTemplateAt (.afterCount 9) (.afterCount 0) ∧ fe.IsTyped (.afterCount 9) ∧
    fe.firstBelow (·.kind == .functionDecl) (.afterCount 0) = .ok (some (.afterCount 4)) ∧
    fe.RecordsAs (.afterCount 9) (some ⟨"less"⟩) ∧
    fe.Attributes (.afterCount 7) (some ⟨"Caller"⟩) (some ⟨"f"⟩) ∧
    ∀ later, ⟨some ⟨"Caller"⟩, some ⟨"f"⟩, ⟨"less"⟩, ⟨"less"⟩⟩ ∈
      ((s.ask (.calls (.afterCount 7))).2.askAll later).2.graph.callsFrom ⟨"f"⟩ := by
  intro fe s
  have acyclic : fe.Acyclic := Snapshot.acyclic_of_ordered (by decide)
  have closed : fe.Closed := Snapshot.frontend_closed (by decide)
  have known := closed.hasCursor_below (c := .afterCount 0) ⟨_, rfl⟩
  have calls : fe.CallsTemplateAt (.afterCount 9) (.afterCount 0) :=
    ⟨_, _, rfl, by decide, rfl, rfl, rfl⟩
  have typed : fe.IsTyped (.afterCount 9) := ⟨_, _, _, rfl, rfl, rfl⟩
  obtain ⟨order, below, found, recorded⟩ := (pattern_of_template acyclic.children).2 known
  obtain rfl := orderBelow_unique below orderBelow_nestedPattern
  have records : fe.RecordsAs (.afterCount 9) (some ⟨"less"⟩) := recorded _ calls
  have inside : fe.DeclaredIn (.afterCount 7)
      { kind := .structDecl, spelling := "Caller", entity := ⟨"Caller"⟩ } :=
    ⟨_, _, rfl, rfl, rfl, by decide⟩
  have attributed : fe.Attributes (.afterCount 7) (some ⟨"Caller"⟩) (some ⟨"f"⟩) :=
    .member rfl (.inl (by decide)) inside
  refine ⟨acyclic.children, known, calls, typed, found, records, attributed, fun later => ?_⟩
  obtain ⟨walked, answered⟩ := walks_nestedPattern
  have body : fe.OrderBelow (.afterCount 7) [.afterCount 8, .afterCount 9] := by
    have below : fe.OrderBelow (.afterCount 7) _ := ⟨_, rfl, .cons rfl (.cons rfl .nil .nil) .nil⟩
    exact below
  have listed : Handle.afterCount 9 ∈ [.afterCount 8, (.afterCount 9 : Cursor)] := by decide
  exact records.walk s _ (.afterCount 7) ⟨"f"⟩ _ _ _ later rfl walked answered ⟨_, rfl, rfl⟩
    attributed body listed ⟨"less"⟩ rfl

end Frontend
end CxxTrees
