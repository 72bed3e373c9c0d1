import CxxTrees.Proofs.Calls.Body
import CxxTrees.Proofs.Frontend.Stack

/-!
# Edges of a body

What the call graph should hold of a call, field by field: whom the calls in the body of a
function are attributed to, and what a call names. The first is a matter of where the function
is declared (`Attributes`), and the second one of what is referred to (`Names`).
-/

namespace CxxTrees

/-- Kinds of functions that are members wherever they are declared. -/
def memberKinds : List CursorKind := [.cxxMethod, .constructor, .destructor, .conversionFunction]

def recordKinds : List CursorKind :=
  [.classDecl, .structDecl, .unionDecl, .classTemplate, .classTemplatePartialSpecialization]

namespace Frontend
variable (fe : Frontend)

/-- `f` is declared in the class, struct or union with these facts. -/
def DeclaredIn (f : Cursor) (record : CursorFacts) : Prop :=
  ∃ facts parent, fe.cursor? f = some facts ∧ facts.semanticParent = some parent ∧
    fe.cursor? parent = some record ∧ record.kind ∈ recordKinds

/-- The caller and the calling method of what is called in the body of a function. A member
calls for its class, and for itself if it is declared in none. A function template is a member
if it is declared in a class. No other function is named. -/
inductive Attributes (f : Cursor) : (caller method : Option EntityId) → Prop where
  | member {facts record : CursorFacts} (known : fe.cursor? f = some facts)
      (kind : facts.kind ∈ memberKinds ∨ facts.kind = .functionTemplate)
      (inside : fe.DeclaredIn f record) : Attributes f (some record.entity) (some facts.entity)
  | alone {facts : CursorFacts} (known : fe.cursor? f = some facts)
      (kind : facts.kind ∈ memberKinds) (outside : ∀ record, ¬ fe.DeclaredIn f record) :
      Attributes f (some facts.entity) (some facts.entity)
  | free {facts : CursorFacts} (known : fe.cursor? f = some facts)
      (kind : facts.kind ∉ memberKinds)
      (outside : facts.kind = .functionTemplate → ∀ record, ¬ fe.DeclaredIn f record) :
      Attributes f none none

/-- The callee and the called method of a call with these facts: a method with its class in
front, a free function twice, and of a function template the first function below it twice. -/
inductive Names (facts : CursorFacts) : (callee method : EntityId) → Prop where
  | method {m ofClass : Cursor} {target record : CursorFacts} (link : facts.referenced = some m)
      (known : fe.cursor? m = some target) (kind : target.kind = .cxxMethod)
      (parent : target.semanticParent = some ofClass) (class_ : fe.cursor? ofClass = some record) :
      Names facts record.entity target.entity
  | function {g : Cursor} {target : CursorFacts} (link : facts.referenced = some g)
      (known : fe.cursor? g = some target) (kind : target.kind = .functionDecl) :
      Names facts target.entity target.entity
  | template {t pattern : Cursor} {target declared : CursorFacts}
      (link : facts.referenced = some t) (known : fe.cursor? t = some target)
      (kind : target.kind = .functionTemplate)
      (first : fe.FirstAmong (·.kind == .functionDecl) target.children pattern)
      (known' : fe.cursor? pattern = some declared) :
      Names facts declared.entity declared.entity

/-- A call is written at `c`, and makes this edge if it stands in the body of `f`. -/
structure EdgeAt (f c : Cursor) (edge : Call) : Prop where
  written : ∃ facts, fe.cursor? c = some facts ∧ facts.kind = .callExpr ∧
    facts.tokens.getLast? = some ")" ∧ fe.Names facts edge.callee edge.calleeMethod
  attributed : fe.Attributes f edge.caller edge.callerMethod

/-- What the graph has of `f` are the edges of the calls written below it, in source order. -/
def HasEdges (graph : CallGraph) (f : Cursor) : Prop :=
  ∃ facts order edge, fe.cursor? f = some facts ∧ fe.OrderBelow f order ∧
    (∀ c call, edge c = some call ↔ fe.EdgeAt f c call) ∧
    graph.callsFrom facts.entity = order.filterMap edge

variable {fe} {f c : Cursor} {facts : CursorFacts} {scope : CallScope} {edge : Call}

/-! ### Attribution -/

theorem isMemberFunction_iff {kind : CursorKind} :
    kind.isMemberFunction = true ↔ kind ∈ memberKinds := List.contains_iff_mem

theorem isRecord_iff {kind : CursorKind} : kind.isRecord = true ↔ kind ∈ recordKinds :=
  List.contains_iff_mem

theorem recordAround_ok {record? : Option Cursor} (h : fe.recordAround f = .ok record?) :
    (∀ c, record? = some c → ∃ record, fe.cursor? c = some record ∧ fe.DeclaredIn f record) ∧
      (record? = none → ∀ record, ¬ fe.DeclaredIn f record) := by
  obtain ⟨facts, looked, h⟩ := except_bind_ok h
  have known := cursor_ok looked
  split at h
  · rename_i link
    obtain rfl := except_pure_ok h
    refine ⟨nofun, fun _ record inside => ?_⟩
    obtain ⟨facts', parent, known', link', _⟩ := inside
    obtain rfl := Option.mem_unique known known'
    rw [link] at link'
    cases link'
  · rename_i parent link
    obtain ⟨record, looked', h⟩ := except_bind_ok h
    have known' := cursor_ok looked'
    obtain rfl := except_pure_ok h
    by_cases kind : record.kind.isRecord = true
    · simp only [kind, if_true]
      refine ⟨fun c same => ?_, nofun⟩
      cases same
      exact ⟨record, known', facts, parent, known, link, known', isRecord_iff.mp kind⟩
    · simp only [kind]
      refine ⟨nofun, fun _ record' inside => ?_⟩
      obtain ⟨facts', parent', known'', link', known''', kind'⟩ := inside
      obtain rfl := Option.mem_unique known known''
      obtain rfl := Option.some.inj (link.symm.trans link')
      obtain rfl := Option.mem_unique known' known'''
      exact kind (isRecord_iff.mpr kind')

theorem attributes_of_scope (seen : fe.scopeOf f = .ok scope) :
    fe.Attributes f (scope.ofClass.or scope.function) scope.function := by
  obtain ⟨facts, looked, seen⟩ := except_bind_ok seen
  obtain ⟨record?, around, seen⟩ := except_bind_ok seen
  have known := cursor_ok looked
  obtain ⟨inside, outside⟩ := recordAround_ok around
  split at seen
  · rename_i member
    rw [isMemberFunction_iff] at member
    cases record? with
    | none =>
      obtain rfl := except_pure_ok seen
      exact .alone known (member.resolve_right nofun) (outside rfl)
    | some c =>
      obtain ⟨record, looked', seen⟩ := except_bind_ok seen
      obtain rfl := except_pure_ok seen
      obtain ⟨record', known', declared⟩ := inside c rfl
      obtain rfl := Option.mem_unique (cursor_ok looked') known'
      exact .member known (member.imp_right And.left) declared
  · rename_i free
    rw [isMemberFunction_iff, not_or] at free
    obtain rfl := except_pure_ok seen
    refine .free known free.1 fun template => outside ?_
    cases record? with
    | none => rfl
    | some c => exact absurd ⟨template, rfl⟩ free.2

theorem declaredIn_unique {record record' : CursorFacts} (first : fe.DeclaredIn f record)
    (second : fe.DeclaredIn f record') : record = record' := by
  obtain ⟨facts, parent, known, link, around, _⟩ := first
  obtain ⟨facts', parent', known', link', around', _⟩ := second
  obtain rfl := Option.mem_unique known known'
  obtain rfl := Option.some.inj (link.symm.trans link')
  exact Option.mem_unique around around'

theorem attributes_unique {caller caller' method method' : Option EntityId}
    (first : fe.Attributes f caller method) (second : fe.Attributes f caller' method') :
    caller = caller' ∧ method = method' := by
  have apart {facts record : CursorFacts}
      (kind : facts.kind ∈ memberKinds ∨ facts.kind = .functionTemplate)
      (inside : fe.DeclaredIn f record) (free : facts.kind ∉ memberKinds)
      (outside : facts.kind = .functionTemplate → ∀ record, ¬ fe.DeclaredIn f record) : False :=
    kind.elim free fun template => outside template record inside
  cases first with
  | member known kind inside =>
    cases second with
    | member known' _ inside' =>
      rw [Option.mem_unique known known', declaredIn_unique inside inside']
      exact ⟨rfl, rfl⟩
    | alone known' _ outside => exact absurd inside (outside _)
    | free known' kind' outside =>
      obtain rfl := Option.mem_unique known known'
      exact (apart kind inside kind' outside).elim
  | alone known kind outside =>
    cases second with
    | member known' _ inside => exact absurd inside (outside _)
    | alone known' _ _ =>
      rw [Option.mem_unique known known']
      exact ⟨rfl, rfl⟩
    | free known' kind' _ =>
      obtain rfl := Option.mem_unique known known'
      exact absurd kind kind'
  | free known kind outside =>
    cases second with
    | member known' kind' inside =>
      obtain rfl := Option.mem_unique known known'
      exact (apart kind' inside kind outside).elim
    | alone known' kind' _ =>
      obtain rfl := Option.mem_unique known known'
      exact absurd kind' kind
    | free _ _ _ => exact ⟨rfl, rfl⟩

/-! ### Targets -/

theorem names_of_callTarget {target : CallTarget} (acyclic : ∀ c, ¬ Relation.TransGen fe.Child c c)
    (found : fe.callTarget facts = .ok (some target)) :
    fe.Names facts target.callee target.method := by
  unfold callTarget at found
  split at found
  · cases except_pure_ok found
  rename_i referenced link
  obtain ⟨named, looked, found⟩ := except_bind_ok found
  have known := cursor_ok looked
  split at found
  · rename_i kind
    split at found
    · cases except_pure_ok found
    · rename_i ofClass parent
      obtain ⟨record, looked', found⟩ := except_bind_ok found
      obtain rfl := Option.some.inj (except_pure_ok found)
      exact .method link known kind parent (cursor_ok looked')
  · rename_i kind
    obtain rfl := Option.some.inj (except_pure_ok found)
    exact .function link known kind
  · rename_i kind
    obtain ⟨pattern?, first, found⟩ := except_bind_ok found
    split at found
    · cases except_pure_ok found
    · rename_i pattern
      obtain ⟨declared, looked', found⟩ := except_bind_ok found
      obtain rfl := Option.some.inj (except_pure_ok found)
      exact .template link known kind ((firstBelow_eq_some_iff acyclic known).mp first)
        (cursor_ok looked')
  · cases except_pure_ok found

theorem callTarget_of_names {callee method : EntityId}
    (acyclic : ∀ c, ¬ Relation.TransGen fe.Child c c) (names : fe.Names facts callee method) :
    ∃ body, fe.callTarget facts = .ok (some { callee, method, body }) := by
  cases names with
  | method link known kind parent class_ =>
    refine ⟨none, ?_⟩
    simp only [callTarget, link, cursor_of_known known, bind, Except.bind, kind, parent,
      cursor_of_known class_]
    rfl
  | @function g _ link known kind =>
    refine ⟨some g, ?_⟩
    simp only [callTarget, link, cursor_of_known known, bind, Except.bind, kind]
    rfl
  | template link known kind first known' =>
    have found := (firstBelow_eq_some_iff acyclic known).mpr first
    refine ⟨none, ?_⟩
    simp only [callTarget, link, cursor_of_known known, bind, Except.bind, kind, found,
      cursor_of_known known']
    rfl

/-! ### Edges -/

/-- What the walk of a body records of a call is its edge. -/
theorem callAt_eq_some_iff (acyclic : ∀ c, ¬ Relation.TransGen fe.Child c c)
    (seen : fe.scopeOf f = .ok scope) : fe.callAt scope c = some edge ↔ fe.EdgeAt f c edge := by
  have attributed := attributes_of_scope seen
  unfold callAt
  constructor
  · intro recorded
    split at recorded
    · cases recorded
    rename_i facts known
    split at recorded
    · rename_i written
      split at recorded
      · rename_i target found
        obtain rfl := Option.some.inj recorded
        exact ⟨⟨facts, known, written.1, written.2, names_of_callTarget acyclic found⟩, attributed⟩
      · cases recorded
    · cases recorded
  · rintro ⟨⟨facts, known, kind, closed, names⟩, attributed'⟩
    obtain ⟨body, found⟩ := callTarget_of_names acyclic names
    obtain ⟨caller, method⟩ := attributes_unique attributed attributed'
    have written : facts.IsWrittenCall := ⟨kind, closed⟩
    simp only [known, written, if_true, found]
    rcases edge with ⟨_, _, _, _⟩
    subst caller method
    rfl

theorem hasEdges_of_hasBodyCalls {graph : CallGraph}
    (acyclic : ∀ c, ¬ Relation.TransGen fe.Child c c) (calls : fe.HasBodyCalls graph f) :
    fe.HasEdges graph f := by
  obtain ⟨facts, scope, order, known, seen, below, recorded⟩ := calls
  exact ⟨facts, order, fe.callAt scope, known, below,
    fun c call => callAt_eq_some_iff acyclic seen, recorded⟩

end Frontend

end CxxTrees
