import Mathlib.Data.List.Forall2
import CxxTrees.Proofs.Calls.FirstWalk
import CxxTrees.Proofs.Calls.Requests
import CxxTrees.Proofs.Session.Reports

/-!
# No call is lost

Every call in a body that is walked ends in one of three ways: as an edge of the graph, as
a report for debugging, or as the construction of a default, which has no parentheses.
`Settles` counts the first two at once, since the walk of a body may be suspended by
others between its calls.
-/

namespace CxxTrees

/-! ### Edges -/

namespace CallGraph
variable {g : CallGraph} {f : EntityId} {call : Call}

/-- The number of calls of all functions. -/
def callCount (g : CallGraph) : Nat := (g.entries.flatMap Prod.snd).length

theorem callCount_insert : (g.insert f).callCount = g.callCount :=
  congrArg List.length calls_insert

theorem callCount_record (distinct : g.functions.Nodup) :
    (g.record f call).callCount = g.callCount + 1 := by
  have perm : (g.record f call).calls.Perm (g.calls ++ [call]) := calls_record distinct
  exact perm.length_eq.trans List.length_append

end CallGraph

/-! ### Settled calls -/

namespace RunState

def debugCount (s : RunState) : Nat := s.events.countP Event.isDebug

/-- The calls that were recorded or reported. -/
def settled (s : RunState) : Nat := s.graph.callCount + s.debugCount

end RunState

theorem Run.type_keeps {fe : Frontend} {site : Site} {type : Ty} {s t : RunState}
    (h : (fe.typeIn Run site).run s = .ok type t) :
    t.graph = s.graph ∧ t.walks = s.walks ∧ t.debugCount = s.debugCount := by
  obtain ⟨graph, walks⟩ := ends_type (.answered h)
  refine ⟨graph, walks, ?_⟩
  have debug := Build.debug_of_quiet (fe.typeAt_quiet site)
  rw [Frontend.typeIn_run, run_ofBuild] at h
  split at h
  · cases h
    rw [RunState.debugCount, RunState.events_noteAll, List.countP_append, debug]
    rfl
  · cases h

namespace Frontend
variable {fe : Frontend}

def isCall (fe : Frontend) (c : Cursor) : Bool := (fe.cursor? c).any (·.kind = .callExpr)

def isWrittenCall (fe : Frontend) (c : Cursor) : Bool := (fe.cursor? c).any (·.IsWrittenCall)

/-- A call expression that does not end in a parenthesis. -/
def isBareCall (fe : Frontend) (c : Cursor) : Bool :=
  (fe.cursor? c).any fun facts => facts.kind = .callExpr ∧ facts.tokens.getLast? ≠ some ")"

theorem countP_isCall (order : List Cursor) :
    order.countP fe.isCall = order.countP fe.isWrittenCall + order.countP fe.isBareCall := by
  induction order with
  | nil => rfl
  | cons c order ih =>
    have here : (if fe.isCall c then 1 else 0) =
        (if fe.isWrittenCall c then 1 else 0) + if fe.isBareCall c then 1 else 0 := by
      unfold isCall isWrittenCall isBareCall CursorFacts.IsWrittenCall
      cases fe.cursor? c with
      | none => rfl
      | some facts =>
        by_cases kind : facts.kind = .callExpr <;>
          by_cases closed : facts.tokens.getLast? = some ")" <;> simp [kind, closed]
    simp only [List.countP_cons, ih]
    omega

/-- From `s` to `t` new entries are made in the order of the walks that fill them, and with
the calls of the bodies that are walked `n` others are settled. -/
structure Settles (fe : Frontend) (n : Nat) (s t : RunState) : Prop where
  distinct : t.graph.functions.Nodup
  walked : ∃ walks ids bodies, t.walks = s.walks ++ walks ∧
    t.graph.functions = s.graph.functions ++ ids ∧ List.Forall₂ fe.HasEntity walks ids ∧
    List.Forall₂ fe.OrderBelow walks bodies ∧
    t.settled = s.settled + n + bodies.flatten.countP fe.isWrittenCall

variable {s m t : RunState} {n k : Nat} {own : EntityId}

theorem Settles.keeps (h : fe.Settles n s t) (present : own ∈ s.graph.functions) :
    own ∈ t.graph.functions := by
  obtain ⟨walks, ids, bodies, _, grown, _⟩ := h.walked
  rw [grown]
  exact List.mem_append_left _ present

theorem settles_of_same (distinct : s.graph.functions.Nodup) (graph : t.graph = s.graph)
    (walks : t.walks = s.walks) (debug : t.debugCount = s.debugCount + n) : fe.Settles n s t := by
  refine ⟨graph ▸ distinct, [], [], [], ?_, ?_, .nil, .nil, ?_⟩
  · rw [walks, List.append_nil]
  · rw [graph, List.append_nil]
  · simp only [RunState.settled, graph, debug, List.flatten_nil, List.countP_nil]
    omega

theorem Settles.trans (first : fe.Settles n s m) (second : fe.Settles k m t) :
    fe.Settles (n + k) s t := by
  obtain ⟨walks, ids, bodies, walked, grown, entities, orders, count⟩ := first.walked
  obtain ⟨walks', ids', bodies', walked', grown', entities', orders', count'⟩ := second.walked
  refine ⟨second.distinct, walks ++ walks', ids ++ ids', bodies ++ bodies', ?_, ?_,
    List.rel_append entities entities', List.rel_append orders orders', ?_⟩
  · rw [walked', walked, List.append_assoc]
  · rw [grown', grown, List.append_assoc]
  · rw [count', count, List.flatten_append, List.countP_append]
    omega

theorem settles_record {call : Call} (distinct : s.graph.functions.Nodup)
    (present : own ∈ s.graph.functions) (h : (Run.record own call).run s = .ok () t) :
    fe.Settles 1 s t := by
  cases h
  have functions : (s.graph.record own call).functions = s.graph.functions := by
    rw [CallGraph.functions_record,
      CallGraph.insert_of_contains (CallGraph.mem_functions.mp present)]
  refine ⟨functions ▸ distinct, [], [], [], ?_, ?_, .nil, .nil, ?_⟩
  · exact (List.append_nil _).symm
  · exact functions.trans (List.append_nil _).symm
  · have count := @CallGraph.callCount_record s.graph own call distinct
    show (s.graph.record own call).callCount + s.debugCount = s.settled + 1 + 0
    rw [count, RunState.settled]
    omega

/-! ### Calls inside of calls -/

variable {options : Options} {scope : CallScope} {collect : Cursor → Run Unit} {c : Cursor}
  {facts : CursorFacts}

theorem reportUnresolved_settles (distinct : s.graph.functions.Nodup)
    (h : (reportUnresolved facts).run s = .ok () t) : fe.Settles 1 s t := by
  cases h
  refine settles_of_same distinct rfl ?_ ?_
  · simp [RunState.walks, Event.walked?]
  · simp [RunState.debugCount, Event.isDebug]

/-- Collecting settles the calls of the bodies that it walks, and no others. -/
def Settling (fe : Frontend) (collect : Cursor → Run Unit) : Prop :=
  ∀ c s t, s.graph.functions.Nodup → (collect c).run s = .ok () t → fe.Settles 0 s t

/-- A written call is reported, or it is left to be recorded. -/
theorem callWith_settles (settling : fe.Settling collect) (distinct : s.graph.functions.Nodup)
    {answer : Option Call} (h : (fe.callWith options collect scope facts).run s = .ok answer t) :
    ∃ n, fe.Settles n s t ∧ n + answer.toList.length = 1 := by
  obtain ⟨target, u, looked, h⟩ := Run.bind_ok h
  obtain ⟨_, rfl⟩ := Run.lift_ok looked
  cases target with
  | none =>
    obtain ⟨_, u, reported, h⟩ := Run.bind_ok h
    obtain ⟨rfl, rfl⟩ := Run.pure_ok h
    exact ⟨1, reportUnresolved_settles distinct reported, rfl⟩
  | some target =>
    have idle : fe.Settles 0 s s := settles_of_same distinct rfl rfl rfl
    cases body : target.body with
    | none =>
      simp only [body] at h
      obtain ⟨rfl, rfl⟩ := Run.pure_ok h
      exact ⟨0, idle, rfl⟩
    | some g =>
      simp only [body] at h
      split at h
      · obtain ⟨_, u, walked, h⟩ := Run.bind_ok h
        obtain ⟨rfl, rfl⟩ := Run.pure_ok h
        exact ⟨0, settling g s u distinct walked, rfl⟩
      · obtain ⟨rfl, rfl⟩ := Run.pure_ok h
        exact ⟨0, idle, rfl⟩

theorem expressionWith_settles (settling : fe.Settling collect) (distinct : s.graph.functions.Nodup)
    (known : fe.cursor? c = some facts) (kind : facts.kind = .callExpr) {answer : Option Expr}
    (h : (fe.expressionWith options collect scope c).run s = .ok answer t) :
    ∃ n, fe.Settles n s t ∧
      n + (answer.bind Expr.call?).toList.length = if facts.IsWrittenCall then 1 else 0 := by
  obtain ⟨facts', u, looked, h⟩ := Run.bind_ok h
  obtain ⟨known', rfl⟩ := Run.lift_ok looked
  obtain rfl := Option.mem_unique known (cursor_ok known')
  split at h
  · exact absurd h Run.fail_ok
  · obtain ⟨type, u, built, h⟩ := Run.bind_ok h
    obtain ⟨graph, walks, debug⟩ := Run.type_keeps built
    have before : fe.Settles 0 s u := settles_of_same distinct graph walks debug
    rw [if_pos (by rw [kind]; rfl)] at h
    split at h
    · rename_i bare
      obtain ⟨rfl, rfl⟩ := Run.pure_ok h
      exact ⟨0, before, by rw [if_neg fun written => bare written.2]; rfl⟩
    · rename_i closed
      have written : facts.IsWrittenCall := ⟨kind, Decidable.not_not.mp closed⟩
      obtain ⟨call, v, called, h⟩ := Run.bind_ok h
      obtain ⟨n, after, outcome⟩ := callWith_settles settling before.distinct called
      have ends : answer.bind Expr.call? = call ∧ v = t := by
        split at h
        all_goals
          obtain ⟨rfl, rfl⟩ := Run.pure_ok h
          exact ⟨rfl, rfl⟩
      obtain ⟨rfl, rfl⟩ := ends
      refine ⟨0 + n, before.trans after, ?_⟩
      rw [Nat.zero_add, outcome, if_pos written]

/-- A visit to one cursor of the body of `own` settles the call that is written there. -/
def SettlesAt (fe : Frontend) (own : EntityId) (visit : Cursor → Run Unit) : Prop :=
  ∀ c s t, s.graph.functions.Nodup → own ∈ s.graph.functions → (visit c).run s = .ok () t →
    fe.Settles (if fe.isWrittenCall c then 1 else 0) s t

/-- A walk below one cursor of the body of `own` settles all calls that are written there. -/
def SettlesBelow (fe : Frontend) (own : EntityId) (below : Cursor → Run Unit) : Prop :=
  ∀ c s t, s.graph.functions.Nodup → own ∈ s.graph.functions → (below c).run s = .ok () t →
    ∃ order, fe.OrderBelow c order ∧ fe.Settles (order.countP fe.isWrittenCall) s t

theorem recordWith_settles (settling : fe.Settling collect) :
    fe.SettlesAt own (fe.recordWith options collect scope own) := by
  intro c s t distinct present h
  obtain ⟨facts, u, looked, h⟩ := Run.bind_ok h
  obtain ⟨known, rfl⟩ := Run.lift_ok looked
  have known := cursor_ok known
  have same : fe.isWrittenCall c = facts.IsWrittenCall := by simp [isWrittenCall, known]
  split at h
  · rename_i kind
    obtain ⟨expression, v, built, h⟩ := Run.bind_ok h
    obtain ⟨n, before, outcome⟩ := expressionWith_settles settling distinct known kind built
    have recorded : fe.Settles (expression.bind Expr.call?).toList.length v t := by
      have idle : fe.Settles 0 v v := settles_of_same before.distinct rfl rfl rfl
      cases expression with
      | none =>
        obtain ⟨_, rfl⟩ := Run.pure_ok h
        exact idle
      | some e =>
        simp only [Option.bind_some]
        cases found : e.call? with
        | none =>
          simp only [found] at h
          obtain ⟨_, rfl⟩ := Run.pure_ok h
          exact idle
        | some call =>
          simp only [found] at h
          exact settles_record before.distinct (before.keeps present) h
    simp only [same, ← outcome]
    exact before.trans recorded
  · rename_i kind
    obtain ⟨_, rfl⟩ := Run.pure_ok h
    have unwritten : ¬ facts.IsWrittenCall := fun written => kind written.1
    simp only [same, unwritten, if_false]
    exact settles_of_same distinct rfl rfl rfl

/-! ### Whole bodies -/

theorem forM_settles {visit below : Cursor → Run Unit} (visits : fe.SettlesAt own visit)
    (belows : fe.SettlesBelow own below) (cs : List Cursor) (s t : RunState)
    (distinct : s.graph.functions.Nodup) (present : own ∈ s.graph.functions)
    (h : (cs.forM fun c => do visit c; below c).run s = .ok () t) :
    ∃ order, fe.SourceOrder cs order ∧ fe.Settles (order.countP fe.isWrittenCall) s t := by
  induction cs generalizing s with
  | nil =>
    obtain ⟨_, rfl⟩ := Run.pure_ok h
    exact ⟨[], .nil, settles_of_same distinct rfl rfl rfl⟩
  | cons c cs ih =>
    obtain ⟨_, u, h, rest⟩ := Run.bind_ok h
    obtain ⟨_, v, visited, h⟩ := Run.bind_ok h
    have atChild := visits c s v distinct present visited
    have present' := atChild.keeps present
    obtain ⟨order, ⟨facts, known, children⟩, below⟩ := belows c v u atChild.distinct present' h
    obtain ⟨later, order', atRest⟩ := ih u below.distinct (below.keeps present') rest
    refine ⟨c :: order ++ later, .cons known children order', ?_⟩
    have whole := (atChild.trans below).trans atRest
    simp only [List.cons_append, List.countP_cons, List.countP_append]
    convert whole using 1
    omega

theorem visitBelowWithin_settles {visit : Cursor → Run Unit} (visits : fe.SettlesAt own visit)
    (limit : Nat) : fe.SettlesBelow own (fe.visitBelowWithin visit limit) := by
  induction limit with
  | zero => exact fun c s t _ _ h => absurd h Run.throw_ok
  | succ limit ih =>
    intro c s t distinct present h
    obtain ⟨facts, u, looked, h⟩ := Run.bind_ok h
    obtain ⟨known, rfl⟩ := Run.lift_ok looked
    obtain ⟨order, children, settled⟩ :=
      forM_settles visits ih facts.children s t distinct present h
    exact ⟨order, ⟨facts, cursor_ok known, children⟩, settled⟩

/-- The calls of a body that is begun are no longer counted apart. -/
theorem settles_begun {u : RunState} {order : List Cursor} (known : fe.cursor? c = some facts)
    (fresh : s.graph.contains facts.entity = false)
    (graph : u.graph = s.graph.insert facts.entity) (walks : u.walks = s.walks ++ [c])
    (debug : u.debugCount = s.debugCount) (below : fe.OrderBelow c order)
    (body : fe.Settles (order.countP fe.isWrittenCall) u t) : fe.Settles 0 s t := by
  obtain ⟨walks', ids, bodies, walked, grown, entities, orders, count⟩ := body.walked
  refine ⟨body.distinct, c :: walks', facts.entity :: ids, order :: bodies, ?_, ?_,
    .cons ⟨facts, known, rfl⟩ entities, .cons below orders, ?_⟩
  · rw [walked, walks, List.append_assoc]
    rfl
  · rw [grown, graph, CallGraph.functions_insert fresh, List.append_assoc]
    rfl
  · have same : u.settled = s.settled := by
      rw [RunState.settled, graph, CallGraph.callCount_insert, debug]
      rfl
    rw [count, same, List.flatten_cons, List.countP_append]
    omega

theorem collectWithin_settling (limit : Nat) : fe.Settling (fe.collectWithin options limit) := by
  induction limit with
  | zero => exact fun c s t _ h => absurd h Run.throw_ok
  | succ limit ih =>
    intro c s t distinct h
    obtain ⟨facts, s', looked, h⟩ := Run.bind_ok h
    obtain ⟨known, rfl⟩ := Run.lift_ok looked
    have known := cursor_ok known
    obtain ⟨fresh, u, reached, h⟩ := Run.bind_ok h
    cases reached
    cases old : s.graph.contains facts.entity with
    | true =>
      -- The body was walked before, or is being walked further out.
      simp only [old] at h
      obtain ⟨_, rfl⟩ := Run.pure_ok h
      exact settles_of_same distinct (CallGraph.insert_of_contains old) rfl rfl
    | false =>
      simp only [old] at h
      obtain ⟨_, v, announced, h⟩ := Run.bind_ok h
      obtain ⟨scope, w, looked, h⟩ := Run.bind_ok h
      obtain ⟨_, rfl⟩ := Run.lift_ok looked
      cases announced
      have functions := CallGraph.functions_insert old
      have distinct' : (s.graph.functions ++ [facts.entity]).Nodup := by
        refine List.nodup_append.mpr ⟨distinct, by simp, fun id listed id' new same => ?_⟩
        obtain rfl := List.mem_singleton.mp new
        rw [same, CallGraph.mem_functions, old] at listed
        cases listed
      obtain ⟨order, below, body⟩ := visitBelowWithin_settles (recordWith_settles ih) _ c _ t
        (functions ▸ distinct') (by simp [functions]) h
      refine settles_begun known old rfl ?_ ?_ below body
      · simp [RunState.walks, Event.walked?]
      · simp [RunState.debugCount, Event.isDebug]

theorem collect_settling : fe.Settling (fe.collect options) := collectWithin_settling _

/-! ### Requests -/

theorem ask_settles {s t : Session} {answer : Answer} {f : Cursor}
    (distinct : s.graph.functions.Nodup) (asked : s.ask (.calls f) = (.ok answer, t)) :
    t.frontend = s.frontend ∧ t.options = s.options ∧
      s.frontend.Settles 0 s.state t.state := by
  unfold Session.ask at asked
  split at asked
  · rename_i state answered
    cases asked
    exact ⟨rfl, rfl, collect_settling f s.state state distinct (answer_calls answered).1⟩
  · cases asked

theorem askAll_settles {s : Session} {roots : List Cursor} (distinct : s.graph.functions.Nodup)
    (answered : ∀ answer ∈ (s.askAll (roots.map .calls)).1, answer.isOk = true) :
    (s.askAll (roots.map .calls)).2.options = s.options ∧
      s.frontend.Settles 0 s.state (s.askAll (roots.map .calls)).2.state := by
  induction roots generalizing s with
  | nil => exact ⟨rfl, settles_of_same distinct rfl rfl rfl⟩
  | cons f roots ih =>
    simp only [List.map_cons, Session.askAll] at answered ⊢
    cases first : s.ask (.calls f) with
    | mk answer t =>
      simp only [first, List.mem_cons, forall_eq_or_imp] at answered ⊢
      obtain ⟨here, later⟩ := answered
      cases answer with
      | error stop => cases here
      | ok answer =>
        obtain ⟨frontend, options, step⟩ := ask_settles distinct first
        obtain ⟨same, rest⟩ := ih step.distinct later
        rw [frontend] at rest
        exact ⟨same.trans options, step.trans rest⟩

/-- Every report for debugging is recorded as one, and no other is. -/
theorem countP_debug (s : RunState) (warningsAsErrors : Bool) :
    (s.reports.map (Report.recorded warningsAsErrors)).countP (·.level = .debug) =
      s.debugCount := by
  rw [RunState.reports, RunState.debugCount, List.countP_map, List.countP_filterMap]
  congr 1
  funext event
  cases event with
  | reading | walking => rfl
  | report r =>
    cases severity : r.severity with
    | debug => simp [Event.report?, Report.recorded, Event.isDebug, severity]
    | warning =>
      cases warningsAsErrors <;> simp [Event.report?, Report.recorded, Event.isDebug, severity]

/-- When all requests for calls are answered, one body was walked for each entry of the graph,
and every call in these bodies is an edge, a report for debugging, or has no parentheses. -/
theorem calls_conserved (verbose : options.verbose = true) (loud : options.quiet = false)
    {roots : List Cursor} {answers : List (Except Stop Answer)} {session : Session}
    (asked : (Session.start fe options).askAll (roots.map .calls) = (answers, session))
    (answered : ∀ answer ∈ answers, answer.isOk = true) :
    session.graph.functions.Nodup ∧
    List.Forall₂ fe.HasEntity session.state.walks session.graph.functions ∧
    ∃ bodies, List.Forall₂ fe.OrderBelow session.state.walks bodies ∧
      bodies.flatten.countP fe.isCall = session.graph.callCount +
        session.diagnostics.countP (·.level = .debug) + bodies.flatten.countP fe.isBareCall := by
  have every : ∀ answer ∈ ((Session.start fe options).askAll (roots.map .calls)).1,
      answer.isOk = true := by
    rw [asked]
    exact answered
  have empty : (Session.start fe options).graph.functions.Nodup := List.nodup_nil
  obtain ⟨same, settled⟩ := askAll_settles empty every
  rw [asked] at same settled
  obtain ⟨walks, ids, bodies, walked, grown, entities, orders, count⟩ := settled.walked
  have walks : session.state.walks = walks := walked
  have functions : session.graph.functions = ids := grown
  have recorded : session.diagnostics.countP (·.level = .debug) = session.state.debugCount := by
    have all := Session.diagnostics_askAll fe options (roots.map .calls)
    simp only [asked, verbose, loud, Bool.true_or, List.filter_true] at all
    rw [all]
    exact countP_debug _ _
  have total : session.graph.callCount + session.state.debugCount =
      bodies.flatten.countP fe.isWrittenCall := count.trans (Nat.zero_add _)
  rw [walks, functions]
  refine ⟨functions ▸ settled.distinct, entities, bodies, orders, ?_⟩
  rw [countP_isCall, recorded]
  omega

/-- Two functions that call each other. One of them also has a call without a target and
constructs a default. -/
def strayCalls : Snapshot where
  cursors := #[
    { kind := .functionDecl, spelling := "f", entity := ⟨"f"⟩, children := [.afterCount 1] },
    { kind := .compoundStmt, spelling := "", entity := ⟨"body"⟩,
      children := [.afterCount 2, .afterCount 3, .afterCount 4] },
    { kind := .callExpr, spelling := "g", entity := ⟨"first"⟩, type := some (.afterCount 0),
      referenced := some (.afterCount 5), tokens := ["g", "(", ")"] },
    { kind := .callExpr, spelling := "h", entity := ⟨"second"⟩, type := some (.afterCount 0),
      tokens := ["h", "(", ")"] },
    { kind := .callExpr, spelling := "box", entity := ⟨"third"⟩, type := some (.afterCount 0),
      tokens := ["box"] },
    { kind := .functionDecl, spelling := "g", entity := ⟨"g"⟩, children := [.afterCount 6] },
    { kind := .callExpr, spelling := "f", entity := ⟨"fourth"⟩, type := some (.afterCount 0),
      referenced := some (.afterCount 0), tokens := ["f", "(", ")"] }]
  types := #[{ kind := .int, spelling := "int" }]

theorem calls_conserved_strayCalls :
    ∃ answers session,
      (Session.start strayCalls.frontend { verbose := true }).askAll [.calls (.afterCount 0)] =
        (answers, session) ∧
      (∀ answer ∈ answers, answer.isOk = true) ∧
      session.graph.callCount = 2 ∧ session.diagnostics.countP (·.level = .debug) = 1 ∧
      ∃ bodies, List.Forall₂ strayCalls.frontend.OrderBelow session.state.walks bodies ∧
        bodies.flatten.countP strayCalls.frontend.isCall =
          2 + 1 + bodies.flatten.countP strayCalls.frontend.isBareCall := by
  have conserved := @calls_conserved strayCalls.frontend { verbose := true } rfl rfl
    [.afterCount 0] _ _ rfl (by decide)
  obtain ⟨_, _, bodies, orders, count⟩ := conserved
  exact ⟨_, _, rfl, by decide, by decide, by decide, bodies, orders, count⟩

end Frontend
end CxxTrees
