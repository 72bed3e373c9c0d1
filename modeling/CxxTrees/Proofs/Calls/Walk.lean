import CxxTrees.Proofs.Build.Runs
import CxxTrees.Proofs.Calls.Body
import CxxTrees.Proofs.Outcome

/-!
# Walks of bodies

A body is walked while the walks that led to it are suspended, so the graph holds
finished entries beside half-filled ones. `Extends` says what a walk may do to
it: add calls to the entry it fills, leave every other entry alone, and finish
the entries that it starts. `collectWithin_collects` carries this through all the
walks inside of a walk.
-/

namespace CxxTrees.Frontend
variable {fe : Frontend} {options : Options} {filling : Option EntityId}

/-- The entry of `f` is finished: it has the calls of its body, and the functions
that these lead to have an entry, if perhaps not a finished one. -/
structure Finished (fe : Frontend) (options : Options) (graph : CallGraph) (f : Cursor) : Prop where
  calls : fe.HasBodyCalls graph f
  callees : options.followCallees = true → ∀ g id, fe.CallsFunction f g → fe.HasEntity g id →
    graph.contains id = true

/-- `after` continues `before`: `added` goes to the entry that is being filled,
and new entries are finished ones of `reached` functions. -/
structure Extends (fe : Frontend) (options : Options) (reached : Cursor → Prop)
    (filling : Option EntityId) (added : List Call) (before after : CallGraph) : Prop where
  keeps : ∀ id, before.contains id = true → after.contains id = true
  calls : ∀ id, before.contains id = true →
    after.callsFrom id = before.callsFrom id ++ if filling = some id then added else []
  finishes : ∀ id, after.contains id = true → before.contains id = true ∨
    ∃ f, reached f ∧ fe.HasEntity f id ∧ fe.Finished options after f

variable {reached reached' : Cursor → Prop} {added added' : List Call} {f : Cursor}
  {before middle after : CallGraph}

theorem extends_refl : fe.Extends options reached filling [] before before :=
  ⟨fun _ => id, fun _ _ => by simp, fun _ => .inl⟩

theorem extends_mono (h : fe.Extends options reached filling added before after)
    (more : ∀ f, reached f → reached' f) :
    fe.Extends options reached' filling added before after := by
  refine ⟨h.keeps, h.calls, fun id present => ?_⟩
  rcases h.finishes id present with old | ⟨f, reach, entity, finished⟩
  · exact .inl old
  · exact .inr ⟨f, more f reach, entity, finished⟩

/-- A walk that fills no entry may run inside of one that does. -/
theorem extends_inside (h : fe.Extends options reached none [] before after) :
    fe.Extends options reached filling [] before after :=
  ⟨h.keeps, fun id old => by simpa using h.calls id old, h.finishes⟩

theorem finished_of_extends {id : EntityId} (finished : fe.Finished options before f)
    (entity : fe.HasEntity f id) (present : before.contains id = true) (other : filling ≠ some id)
    (h : fe.Extends options reached filling added before after) : fe.Finished options after f := by
  have same : after.callsFrom id = before.callsFrom id := by
    rw [h.calls id present, if_neg other, List.append_nil]
  refine ⟨hasBodyCalls_of_callsFrom finished.calls entity same, fun follow g id call callee => ?_⟩
  exact h.keeps id (finished.callees follow g id call callee)

theorem extends_trans (present : ∀ own, filling = some own → before.contains own = true)
    (first : fe.Extends options reached filling added before middle)
    (second : fe.Extends options reached filling added' middle after) :
    fe.Extends options reached filling (added ++ added') before after := by
  refine ⟨fun id old => second.keeps id (first.keeps id old), fun id old => ?_, fun id new => ?_⟩
  · rw [second.calls id (first.keeps id old), first.calls id old, List.append_assoc]
    split <;> simp
  · rcases second.finishes id new with here | finished
    · rcases first.finishes id here with old | ⟨f, reach, entity, finished⟩
      · exact .inl old
      · by_cases own : filling = some id
        · exact .inl (present id own)
        · -- What the first part finished is not the entry that the second goes on to fill.
          exact .inr ⟨f, reach, entity, finished_of_extends finished entity here own second⟩
    · exact .inr finished

/-! ### Parts of a body -/

def LedFrom (fe : Frontend) (options : Options) (order : List Cursor) (f : Cursor) : Prop :=
  options.followCallees = true ∧
    ∃ c ∈ order, ∃ g, fe.CallsFunctionAt c g ∧ fe.LeadsTo options g f

/-- Part of a body was walked: the calls at `order` were added to the entry `own`,
and the free functions they name have entries. -/
structure Walked (fe : Frontend) (options : Options) (scope : CallScope) (own : EntityId)
    (order : List Cursor) (before after : CallGraph) : Prop where
  grown : fe.Extends options (fe.LedFrom options order) (some own)
    (order.filterMap (fe.callAt scope)) before after
  callees : options.followCallees = true → ∀ c ∈ order, ∀ g id, fe.CallsFunctionAt c g →
    fe.HasEntity g id → after.contains id = true

variable {scope : CallScope} {own : EntityId} {order later : List Cursor}

theorem walked_nil : fe.Walked options scope own [] before before :=
  ⟨extends_refl, fun _ c member => by simp at member⟩

theorem walked_append (present : before.contains own = true)
    (first : fe.Walked options scope own order before middle)
    (second : fe.Walked options scope own later middle after) :
    fe.Walked options scope own (order ++ later) before after := by
  constructor
  · rw [List.filterMap_append]
    refine extends_trans (fun own' same => ?_) (extends_mono first.grown ?_)
      (extends_mono second.grown ?_)
    · obtain rfl := Option.some.inj same
      exact present
    · intro f led
      obtain ⟨follow, c, member, led⟩ := led
      exact ⟨follow, c, List.mem_append_left _ member, led⟩
    · intro f led
      obtain ⟨follow, c, member, led⟩ := led
      exact ⟨follow, c, List.mem_append_right _ member, led⟩
  · intro follow c member g id call entity
    rcases List.mem_append.mp member with early | late
    · exact second.grown.keeps id (first.callees follow c early g id call entity)
    · exact second.callees follow c late g id call entity

/-! ### One cursor -/

/-- Of all targets only free functions have a body to be walked. -/
theorem callTarget_body {facts target : CursorFacts} {referenced : Cursor}
    {answer : Option CallTarget} (named : facts.referenced = some referenced)
    (known : fe.cursor? referenced = some target) (h : fe.callTarget facts = .ok answer) :
    answer.bind CallTarget.body = if target.kind = .functionDecl then some referenced else none := by
  unfold callTarget at h
  rw [named] at h
  obtain ⟨target', looked, h⟩ := except_bind_ok h
  obtain rfl := Option.mem_unique known (cursor_ok looked)
  split at h
  · rename_i kind
    rw [if_neg (by simp [kind])]
    split at h
    · rw [← except_pure_ok h]
      rfl
    · obtain ⟨ofClass, _, h⟩ := except_bind_ok h
      rw [← except_pure_ok h]
      rfl
  · rename_i kind
    rw [if_pos kind, ← except_pure_ok h]
    rfl
  · rename_i kind
    rw [if_neg (by simp [kind])]
    obtain ⟨pattern, _, h⟩ := except_bind_ok h
    split at h
    · rw [← except_pure_ok h]
      rfl
    · obtain ⟨declared, _, h⟩ := except_bind_ok h
      rw [← except_pure_ok h]
      rfl
  · rename_i other _
    rw [if_neg other, ← except_pure_ok h]
    rfl

theorem callsFunctionAt_iff {c g : Cursor} {facts : CursorFacts} {answer : Option CallTarget}
    (known : fe.cursor? c = some facts) (written : facts.IsWrittenCall)
    (h : fe.callTarget facts = .ok answer) :
    fe.CallsFunctionAt c g ↔ answer.bind CallTarget.body = some g := by
  constructor
  · intro call
    obtain ⟨facts', target, known', _, named, knownTarget, kind⟩ := call
    obtain rfl := Option.mem_unique known known'
    rw [callTarget_body named knownTarget h, if_pos kind]
  · intro body
    cases named : facts.referenced with
    | none =>
      unfold callTarget at h
      rw [named] at h
      rw [← except_pure_ok h] at body
      cases body
    | some referenced =>
      have ⟨target, knownTarget⟩ : ∃ target, fe.cursor? referenced = some target := by
        unfold callTarget at h
        rw [named] at h
        obtain ⟨target, looked, _⟩ := except_bind_ok h
        exact ⟨target, cursor_ok looked⟩
      rw [callTarget_body named knownTarget h] at body
      split at body
      · rename_i kind
        obtain rfl := Option.some.inj body
        exact ⟨facts, target, known, written, named, knownTarget, kind⟩
      · cases body

variable {collect : Cursor → Run Unit} {c : Cursor} {facts : CursorFacts} {s t : RunState}

theorem callWith_ok {answer : Option Call}
    (h : (fe.callWith options collect scope facts).run s = .ok answer t) :
    ∃ target, fe.callTarget facts = .ok target ∧
      answer = target.map (fun target => scope.call target.callee target.method) ∧
      ((options.followCallees = true → target.bind CallTarget.body = none) ∧ t.graph = s.graph ∨
        ∃ g, options.followCallees = true ∧ target.bind CallTarget.body = some g ∧
          (collect g).run s = .ok () t) := by
  unfold callWith at h
  obtain ⟨target, u, looked, h⟩ := Run.bind_ok h
  obtain ⟨found, rfl⟩ := Run.lift_ok looked
  refine ⟨target, found, ?_⟩
  cases target with
  | none =>
    obtain ⟨_, u, reported, h⟩ := Run.bind_ok h
    obtain ⟨rfl, rfl⟩ := Run.pure_ok h
    exact ⟨rfl, .inl ⟨fun _ => rfl, Run.emit_ok reported⟩⟩
  | some target =>
    cases body : target.body with
    | none =>
      simp only [body] at h
      obtain ⟨rfl, rfl⟩ := Run.pure_ok h
      exact ⟨rfl, .inl ⟨fun _ => body, rfl⟩⟩
    | some g =>
      simp only [body] at h
      split at h
      · rename_i follow
        obtain ⟨_, u, walked, h⟩ := Run.bind_ok h
        obtain ⟨rfl, rfl⟩ := Run.pure_ok h
        exact ⟨rfl, .inr ⟨g, follow, body, walked⟩⟩
      · rename_i follow
        obtain ⟨rfl, rfl⟩ := Run.pure_ok h
        exact ⟨rfl, .inl ⟨fun h => absurd h follow, rfl⟩⟩

/-- Only a written call is looked into; its expression is a call if it has a target. -/
theorem expressionWith_call {answer : Option Expr} (known : fe.cursor? c = some facts)
    (kind : facts.kind = .callExpr)
    (h : (fe.expressionWith options collect scope c).run s = .ok answer t) :
    ¬ facts.IsWrittenCall ∧ answer = none ∧ t.graph = s.graph ∨
      facts.IsWrittenCall ∧ ∃ call u, u.graph = s.graph ∧
        (fe.callWith options collect scope facts).run u = .ok call t ∧
        answer.bind Expr.call? = call := by
  unfold expressionWith at h
  obtain ⟨facts', u, looked, h⟩ := Run.bind_ok h
  obtain ⟨known', rfl⟩ := Run.lift_ok looked
  obtain rfl := Option.mem_unique known (cursor_ok known')
  split at h
  · exact absurd h Run.fail_ok
  · obtain ⟨type, u, built, h⟩ := Run.bind_ok h
    rw [typeIn_run] at built
    obtain ⟨_, same⟩ := Run.build_ok built
    rw [if_pos (by rw [kind]; rfl)] at h
    split at h
    · rename_i open_
      obtain ⟨rfl, rfl⟩ := Run.pure_ok h
      exact .inl ⟨fun written => open_ written.2, rfl, same⟩
    · rename_i closed
      obtain ⟨call, v, called, h⟩ := Run.bind_ok h
      refine .inr ⟨⟨kind, Decidable.not_not.mp closed⟩, call, u, same, ?_⟩
      split at h
      all_goals
        obtain ⟨rfl, rfl⟩ := Run.pure_ok h
        exact ⟨called, rfl⟩

/-- What collecting the calls of a function does, whatever is being walked. -/
def Collects (fe : Frontend) (options : Options) (collect : Cursor → Run Unit) : Prop :=
  ∀ c s t, (collect c).run s = .ok () t →
    fe.Extends options (fe.LeadsTo options c) none [] s.graph t.graph ∧
      ∀ id, fe.HasEntity c id → t.graph.contains id = true

theorem callAt_written (known : fe.cursor? c = some facts) (written : facts.IsWrittenCall)
    {target : Option CallTarget} (found : fe.callTarget facts = .ok target) :
    fe.callAt scope c = target.map fun target => scope.call target.callee target.method := by
  simp only [callAt, known, if_pos written, found]
  cases target <;> rfl

theorem extends_record {call : Call} (present : before.contains own = true) :
    fe.Extends options reached (some own) [call] before (before.record own call) := by
  refine ⟨fun id old => ?_, fun id old => ?_, fun id new => ?_⟩
  · exact CallGraph.contains_record.mpr (.inl old)
  · rw [CallGraph.callsFrom_record]
    by_cases same : id = own
    · subst same
      simp
    · simp [same, Ne.symm same]
  · rcases CallGraph.contains_record.mp new with old | rfl
    · exact .inl old
    · exact .inl present

theorem callWith_walked (collects : fe.Collects options collect) {answer : Option Call}
    (known : fe.cursor? c = some facts) (written : facts.IsWrittenCall)
    (h : (fe.callWith options collect scope facts).run s = .ok answer t) :
    answer = fe.callAt scope c ∧
      fe.Extends options (fe.LedFrom options [c]) none [] s.graph t.graph ∧
      (options.followCallees = true → ∀ g id, fe.CallsFunctionAt c g → fe.HasEntity g id →
        t.graph.contains id = true) := by
  obtain ⟨target, found, rfl, walk⟩ := callWith_ok h
  have leads : ∀ g, fe.CallsFunctionAt c g ↔ target.bind CallTarget.body = some g :=
    fun g => callsFunctionAt_iff known written found
  refine ⟨(callAt_written known written found).symm, ?_⟩
  rcases walk with ⟨nowhere, same⟩ | ⟨g, follow, body, walked⟩
  · rw [same]
    refine ⟨extends_refl, fun follow g id call _ => ?_⟩
    rw [leads, nowhere follow] at call
    cases call
  · obtain ⟨grown, present⟩ := collects g s t walked
    refine ⟨extends_mono grown fun f led => ?_, fun _ g' id call entity => ?_⟩
    · exact ⟨follow, c, List.mem_singleton_self c, g, (leads g).mpr body, led⟩
    · rw [leads, body] at call
      obtain rfl := Option.some.inj call
      exact present id entity

/-- A call with a target is recorded after the body it leads to was walked. -/
theorem recordWith_ok (known : fe.cursor? c = some facts)
    (h : (fe.recordWith options collect scope own c).run s = .ok () t) :
    ¬ facts.IsWrittenCall ∧ t.graph = s.graph ∨
      facts.IsWrittenCall ∧ ∃ call u v, u.graph = s.graph ∧
        (fe.callWith options collect scope facts).run u = .ok call v ∧
        t.graph = (match call with
          | none => v.graph
          | some call => v.graph.record own call) := by
  unfold recordWith at h
  obtain ⟨facts', u, looked, h⟩ := Run.bind_ok h
  obtain ⟨known', rfl⟩ := Run.lift_ok looked
  obtain rfl := Option.mem_unique known (cursor_ok known')
  split at h
  · rename_i kind
    obtain ⟨expression, v, built, h⟩ := Run.bind_ok h
    rcases expressionWith_call known kind built with ⟨unwritten, rfl, same⟩ |
      ⟨written, call, w, same, called, rfl⟩
    · obtain ⟨_, rfl⟩ := Run.pure_ok h
      exact .inl ⟨unwritten, same⟩
    · refine .inr ⟨written, _, w, v, same, called, ?_⟩
      cases expression with
      | none =>
        obtain ⟨_, rfl⟩ := Run.pure_ok h
        rfl
      | some e =>
        simp only [Option.bind_some]
        cases found : e.call? with
        | none =>
          simp only [found] at h
          obtain ⟨_, rfl⟩ := Run.pure_ok h
          rfl
        | some call =>
          simp only [found] at h
          exact Run.record_ok h
  · rename_i kind
    obtain ⟨_, rfl⟩ := Run.pure_ok h
    exact .inl ⟨fun written => kind written.1, rfl⟩

theorem recordWith_walked (collects : fe.Collects options collect)
    (present : s.graph.contains own = true)
    (h : (fe.recordWith options collect scope own c).run s = .ok () t) :
    fe.Walked options scope own [c] s.graph t.graph := by
  have ⟨facts, known⟩ : ∃ facts, fe.cursor? c = some facts := by
    unfold recordWith at h
    obtain ⟨facts, u, looked, _⟩ := Run.bind_ok h
    exact ⟨facts, cursor_ok (Run.lift_ok looked).1⟩
  rcases recordWith_ok known h with ⟨unwritten, same⟩ | ⟨written, call, u, v, same, called, after⟩
  · constructor
    · have none : fe.callAt scope c = none := by simp only [callAt, known, if_neg unwritten]
      simp only [List.filterMap_cons, none, List.filterMap_nil, same]
      exact extends_refl
    · intro _ c' member g id named
      obtain rfl := List.mem_singleton.mp member
      obtain ⟨facts', _, known', written, _⟩ := named
      obtain rfl := Option.mem_unique known known'
      exact absurd written unwritten
  · obtain ⟨rfl, grown, callees⟩ := callWith_walked collects known written called
    rw [same] at grown
    have walked : fe.Extends options (fe.LedFrom options [c]) (some own) [] s.graph v.graph :=
      extends_inside grown
    cases recorded : fe.callAt scope c with
    | none =>
      simp only [recorded] at after
      refine ⟨?_, fun follow c' member g id named entity => ?_⟩
      · simp only [List.filterMap_cons, recorded, List.filterMap_nil, after]
        exact walked
      · obtain rfl := List.mem_singleton.mp member
        rw [after]
        exact callees follow g id named entity
    | some call =>
      simp only [recorded] at after
      refine ⟨?_, fun follow c' member g id named entity => ?_⟩
      · simp only [List.filterMap_cons, recorded, List.filterMap_nil, after]
        refine extends_trans (fun own' same => ?_) walked
          (extends_record (grown.keeps own present))
        obtain rfl := Option.some.inj same
        exact present
      · obtain rfl := List.mem_singleton.mp member
        rw [after]
        exact CallGraph.contains_record.mpr (.inl (callees follow g id named entity))

/-! ### Whole bodies -/

theorem forM_walked {visit below : Cursor → Run Unit}
    (visits : ∀ c s t, s.graph.contains own = true → (visit c).run s = .ok () t →
      fe.Walked options scope own [c] s.graph t.graph)
    (belows : ∀ c s t, s.graph.contains own = true → (below c).run s = .ok () t →
      ∃ order, fe.OrderBelow c order ∧ fe.Walked options scope own order s.graph t.graph)
    (cs : List Cursor) (s t : RunState) (present : s.graph.contains own = true)
    (h : (cs.forM fun c => do visit c; below c).run s = .ok () t) :
    ∃ order, fe.SourceOrder cs order ∧ fe.Walked options scope own order s.graph t.graph := by
  induction cs generalizing s with
  | nil =>
    obtain ⟨_, rfl⟩ := Run.pure_ok h
    exact ⟨[], .nil, walked_nil⟩
  | cons c cs ih =>
    obtain ⟨_, u, h, rest⟩ := Run.bind_ok h
    obtain ⟨_, v, visited, h⟩ := Run.bind_ok h
    have atChild := visits c s v present visited
    have present' := atChild.grown.keeps own present
    obtain ⟨order, ⟨facts, known, children⟩, belowChild⟩ := belows c v u present' h
    have present'' := belowChild.grown.keeps own present'
    obtain ⟨later, order', atRest⟩ := ih u present'' rest
    refine ⟨c :: order ++ later, .cons known children order', ?_⟩
    exact walked_append present (walked_append present atChild belowChild) atRest

theorem visitBelowWithin_walked {visit : Cursor → Run Unit}
    (visits : ∀ c s t, s.graph.contains own = true → (visit c).run s = .ok () t →
      fe.Walked options scope own [c] s.graph t.graph)
    (limit : Nat) (c : Cursor) (s t : RunState) (present : s.graph.contains own = true)
    (h : (fe.visitBelowWithin visit limit c).run s = .ok () t) :
    ∃ order, fe.OrderBelow c order ∧ fe.Walked options scope own order s.graph t.graph := by
  induction limit generalizing c s t with
  | zero => exact absurd h Run.throw_ok
  | succ limit ih =>
    unfold visitBelowWithin at h
    obtain ⟨facts, u, looked, h⟩ := Run.bind_ok h
    obtain ⟨known, rfl⟩ := Run.lift_ok looked
    obtain ⟨order, children, walked⟩ := forM_walked visits ih facts.children s t present h
    exact ⟨order, ⟨facts, cursor_ok known, children⟩, walked⟩

theorem extends_of_walked (known : fe.cursor? c = some facts) (seen : fe.scopeOf c = .ok scope)
    (below : fe.OrderBelow c order) (fresh : before.contains facts.entity = false)
    (walked : fe.Walked options scope facts.entity order (before.insert facts.entity) after) :
    fe.Extends options (fe.LeadsTo options c) none [] before after := by
  have own : (before.insert facts.entity).contains facts.entity = true :=
    CallGraph.contains_insert.mpr (.inr rfl)
  have finished : fe.Finished options after c := by
    refine ⟨⟨facts, scope, order, known, seen, below, ?_⟩, ?_⟩
    · rw [walked.grown.calls _ own, CallGraph.callsFrom_insert,
        CallGraph.callsFrom_of_not_contains fresh, if_pos rfl, List.nil_append]
    · intro follow g id call entity
      obtain ⟨order', below', c', member, named⟩ := call
      obtain rfl := orderBelow_unique below below'
      exact walked.callees follow c' member g id named entity
  refine ⟨fun id old => ?_, fun id old => ?_, fun id new => ?_⟩
  · exact walked.grown.keeps id (CallGraph.contains_insert.mpr (.inl old))
  · have other : some facts.entity ≠ some id := by
      intro same
      obtain rfl := Option.some.inj same
      rw [fresh] at old
      cases old
    rw [walked.grown.calls id (CallGraph.contains_insert.mpr (.inl old)),
      CallGraph.callsFrom_insert, if_neg other]
    rfl
  · rcases walked.grown.finishes id new with here | ⟨f, led, entity, done⟩
    · rcases CallGraph.contains_insert.mp here with old | rfl
      · exact .inl old
      · exact .inr ⟨c, leadsTo_refl, ⟨facts, known, rfl⟩, finished⟩
    · obtain ⟨follow, c', member, g, named, leads⟩ := led
      exact .inr ⟨f, leadsTo_head follow ⟨order, below, c', member, named⟩ leads, entity, done⟩

theorem collectWithin_collects (limit : Nat) :
    fe.Collects options (fe.collectWithin options limit) := by
  induction limit with
  | zero => exact fun c s t h => absurd h Run.throw_ok
  | succ limit ih =>
    intro c s t h
    unfold collectWithin at h
    obtain ⟨facts, s', looked, h⟩ := Run.bind_ok h
    obtain ⟨known, rfl⟩ := Run.lift_ok looked
    have known := cursor_ok known
    obtain ⟨fresh, u, reached, h⟩ := Run.bind_ok h
    obtain ⟨rfl, marked⟩ := Run.reach_ok reached
    have present : u.graph.contains facts.entity = true := by
      rw [marked]
      exact CallGraph.contains_insert.mpr (.inr rfl)
    cases old : s.graph.contains facts.entity with
    | true =>
      -- The body was walked before, or is being walked further out.
      simp only [old] at h
      obtain ⟨_, rfl⟩ := Run.pure_ok h
      rw [CallGraph.insert_of_contains old] at marked
      refine ⟨marked ▸ extends_refl, fun id entity => ?_⟩
      obtain rfl := hasEntity_unique entity ⟨facts, known, rfl⟩
      exact present
    | false =>
      simp only [old] at h
      obtain ⟨_, v, announced, h⟩ := Run.bind_ok h
      obtain ⟨scope, w, looked, h⟩ := Run.bind_ok h
      obtain ⟨seen, rfl⟩ := Run.lift_ok looked
      rw [← Run.emit_ok announced] at marked present
      obtain ⟨order, below, walked⟩ := visitBelowWithin_walked
        (fun c s t => recordWith_walked ih) _ c v t present h
      have kept := walked.grown.keeps facts.entity present
      rw [marked] at walked
      refine ⟨extends_of_walked known seen below old walked, fun id entity => ?_⟩
      obtain rfl := hasEntity_unique entity ⟨facts, known, rfl⟩
      exact kept

theorem collect_collects : fe.Collects options (fe.collect options) :=
  collectWithin_collects _

end CxxTrees.Frontend
