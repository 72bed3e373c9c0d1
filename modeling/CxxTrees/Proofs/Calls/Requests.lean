import CxxTrees.Proofs.Calls.Edges
import CxxTrees.Proofs.Calls.Walk
import CxxTrees.Proofs.Snapshot.Links
import CxxTrees.Session
import CxxTrees.Snapshot.Basic

/-!
# Graphs of a session

Requests for calls fill one graph, one walk after the other. When all of them
are answered no walk was left suspended: every entry is finished, and the graph
is the one that the tables call for.
-/

namespace CxxTrees.Frontend
variable {fe : Frontend} {options : Options} {roots : List Cursor} {graph : CallGraph}
  {f g : Cursor} {id : EntityId}

/-- Every entry is a finished one of a function that a root leads to, and the
roots have entries. -/
structure Collected (fe : Frontend) (options : Options) (roots : List Cursor)
    (graph : CallGraph) : Prop where
  requested : ∀ f ∈ roots, ∃ id, fe.HasEntity f id ∧ graph.contains id = true
  entries : ∀ id, graph.contains id = true → ∃ f ∈ roots, ∃ g, fe.LeadsTo options f g ∧
    fe.HasEntity g id ∧ fe.Finished options graph g

theorem collected_empty : fe.Collected options [] CallGraph.empty := by
  refine ⟨fun f member => by simp at member, fun id present => ?_⟩
  rw [CallGraph.contains_empty] at present
  cases present

theorem collected_step {after : CallGraph} (h : fe.Collected options roots graph)
    (entity : fe.HasEntity f id) (present : after.contains id = true)
    (grown : fe.Extends options (fe.LeadsTo options f) none [] graph after) :
    fe.Collected options (roots ++ [f]) after := by
  constructor
  · intro f' member
    rcases List.mem_append.mp member with old | new
    · obtain ⟨id', entity', present'⟩ := h.requested f' old
      exact ⟨id', entity', grown.keeps id' present'⟩
    · obtain rfl := List.mem_singleton.mp new
      exact ⟨id, entity, present⟩
  · intro id' present'
    rcases grown.finishes id' present' with old | ⟨g, leads, entity', finished⟩
    · obtain ⟨f', member, g, leads, entity', finished⟩ := h.entries id' old
      refine ⟨f', List.mem_append_left _ member, g, leads, entity', ?_⟩
      exact finished_of_extends finished entity' old (by simp) grown
    · exact ⟨f, by simp, g, leads, entity', finished⟩

/-! ### What a collected graph has -/

theorem finished_of_collected (distinct : fe.DistinctEntities)
    (h : fe.Collected options roots graph) (entity : fe.HasEntity f id)
    (present : graph.contains id = true) : fe.Finished options graph f := by
  obtain ⟨_, _, g, _, entity', finished⟩ := h.entries id present
  obtain rfl := distinct g f id entity' entity
  exact finished

theorem callsFunction_entity (call : fe.CallsFunction f g) : ∃ id, fe.HasEntity g id := by
  obtain ⟨_, _, _, _, _, target, _, _, _, known, _⟩ := call
  exact ⟨target.entity, target, known, rfl⟩

theorem contains_of_callsFunction (distinct : fe.DistinctEntities)
    (h : fe.Collected options roots graph) (follow : options.followCallees = true)
    (present : ∃ id, fe.HasEntity f id ∧ graph.contains id = true) (call : fe.CallsFunction f g) :
    ∃ id, fe.HasEntity g id ∧ graph.contains id = true := by
  obtain ⟨id, entity, present⟩ := present
  obtain ⟨id', entity'⟩ := callsFunction_entity call
  have finished := finished_of_collected distinct h entity present
  exact ⟨id', entity', finished.callees follow g id' call entity'⟩

theorem contains_of_chain (distinct : fe.DistinctEntities)
    (h : fe.Collected options roots graph) (follow : options.followCallees = true)
    (present : ∃ id, fe.HasEntity f id ∧ graph.contains id = true)
    (chain : Relation.TransGen fe.CallsFunction f g) :
    ∃ id, fe.HasEntity g id ∧ graph.contains id = true := by
  induction chain with
  | single call => exact contains_of_callsFunction distinct h follow present call
  | tail _ call ih => exact contains_of_callsFunction distinct h follow ih call

theorem contains_iff_leadsTo (distinct : fe.DistinctEntities)
    (h : fe.Collected options roots graph) :
    graph.contains id = true ↔
      ∃ f ∈ roots, ∃ g, fe.LeadsTo options f g ∧ fe.HasEntity g id := by
  constructor
  · intro present
    obtain ⟨f, root, g, leads, entity, _⟩ := h.entries id present
    exact ⟨f, root, g, leads, entity⟩
  · intro led
    obtain ⟨f, root, g, leads, entity⟩ := led
    have present := h.requested f root
    have ⟨id', entity', present'⟩ : ∃ id, fe.HasEntity g id ∧ graph.contains id = true := by
      rcases leads with rfl | ⟨follow, chain⟩
      · exact present
      · exact contains_of_chain distinct h follow present chain
    rw [hasEntity_unique entity entity']
    exact present'

theorem callsFrom_agree (distinct : fe.DistinctEntities) {options' : Options}
    {roots' : List Cursor} {graph' : CallGraph} (h : fe.Collected options roots graph)
    (h' : fe.Collected options' roots' graph') (present : graph.contains id = true)
    (present' : graph'.contains id = true) : graph.callsFrom id = graph'.callsFrom id := by
  obtain ⟨_, _, f, _, entity, finished⟩ := h.entries id present
  have finished' := finished_of_collected distinct h' entity present'
  exact hasBodyCalls_agree finished.calls finished'.calls entity

/-! ### Requests one after the other -/

theorem answer_calls {answer : Answer} {s t : RunState}
    (h : (fe.answer options (.calls f)).run s = .ok answer t) :
    (fe.collect options f).run s = .ok () t ∧ ∃ id, fe.HasEntity f id := by
  unfold Frontend.answer at h
  obtain ⟨calls, u, asked, h⟩ := Run.bind_ok h
  obtain ⟨_, rfl⟩ := Run.pure_ok h
  obtain ⟨_, v, collected, asked⟩ := Run.bind_ok asked
  obtain ⟨seen, w, got, asked⟩ := Run.bind_ok asked
  obtain ⟨rfl, rfl⟩ : v = seen ∧ v = w := by
    cases got
    exact ⟨rfl, rfl⟩
  obtain ⟨facts, w, looked, asked⟩ := Run.bind_ok asked
  obtain ⟨known, rfl⟩ := Run.lift_ok looked
  obtain ⟨_, rfl⟩ := Run.pure_ok asked
  exact ⟨collected, facts.entity, facts, cursor_ok known, rfl⟩

theorem ask_collected {s t : Session} {answer : Answer}
    (h : Collected s.frontend s.options roots s.graph)
    (asked : s.ask (.calls f) = (.ok answer, t)) :
    t.frontend = s.frontend ∧ t.options = s.options ∧
      Collected s.frontend s.options (roots ++ [f]) t.graph := by
  unfold Session.ask at asked
  split at asked
  · rename_i state answered
    cases asked
    obtain ⟨collected, id, entity⟩ := answer_calls answered
    obtain ⟨grown, present⟩ := collect_collects f s.state state collected
    exact ⟨rfl, rfl, collected_step h entity (present id entity) grown⟩
  · cases asked

theorem askAll_collected {s : Session} {more : List Cursor}
    (h : Collected s.frontend s.options roots s.graph)
    (answered : ∀ answer ∈ (s.askAll (more.map .calls)).1, answer.isOk = true) :
    Collected s.frontend s.options (roots ++ more) (s.askAll (more.map .calls)).2.graph := by
  induction more generalizing s roots with
  | nil => simpa [Session.askAll] using h
  | cons f more ih =>
    simp only [List.map_cons, Session.askAll] at answered ⊢
    cases first : s.ask (.calls f) with
    | mk answer t =>
      simp only [first, List.mem_cons, forall_eq_or_imp] at answered ⊢
      obtain ⟨here, later⟩ := answered
      cases answer with
      | error stop => cases here
      | ok answer =>
        obtain ⟨frontend, options, step⟩ := ask_collected h first
        rw [← frontend, ← options] at step ⊢
        simpa using ih step later

/-- Asked for the calls of `roots`, a fresh session answers all requests and is
left with `graph`. -/
def LeavesGraph (fe : Frontend) (options : Options) (roots : List Cursor)
    (graph : CallGraph) : Prop :=
  ∃ answers session,
    Session.askAll { frontend := fe, options } (roots.map .calls) = (answers, session) ∧
      (∀ answer ∈ answers, answer.isOk = true) ∧ session.graph = graph

theorem collected_of_leavesGraph (h : fe.LeavesGraph options roots graph) :
    fe.Collected options roots graph := by
  obtain ⟨answers, session, asked, answered, rfl⟩ := h
  let fresh : Session := { frontend := fe, options }
  have start : fe.Collected options [] fresh.graph := collected_empty
  have every : ∀ answer ∈ (fresh.askAll (roots.map .calls)).1, answer.isOk = true := by
    rw [asked]
    exact answered
  have collected := askAll_collected start every
  rw [asked] at collected
  exact collected

/-- The graph contains the requested functions and, where callees are followed,
those that chains of calls lead to; it has the edges of each body in full. Hence
neither the order of the requests nor following callees changes the calls of a function. -/
theorem graph_of_requests (acyclic : ∀ c, ¬ Relation.TransGen fe.Child c c)
    (distinct : fe.DistinctEntities) (asked : fe.LeavesGraph options roots graph) :
    (∀ id, graph.contains id = true ↔
      ∃ f ∈ roots, ∃ g, fe.LeadsTo options f g ∧ fe.HasEntity g id) ∧
    (∀ f id, fe.HasEntity f id → graph.contains id = true → fe.HasEdges graph f) ∧
    ∀ options' roots' graph', fe.LeavesGraph options' roots' graph' →
      (∀ id, graph.contains id = true → graph'.contains id = true →
        graph.callsFrom id = graph'.callsFrom id) ∧
      (options'.followCallees = options.followCallees → (∀ f, f ∈ roots' ↔ f ∈ roots) →
        ∀ id, graph.callsFrom id = graph'.callsFrom id) := by
  have collected := collected_of_leavesGraph asked
  refine ⟨fun id => contains_iff_leadsTo distinct collected, fun f id entity present => ?_, ?_⟩
  · have finished := finished_of_collected distinct collected entity present
    exact hasEdges_of_hasBodyCalls acyclic finished.calls
  · intro options' roots' graph' asked'
    have collected' := collected_of_leavesGraph asked'
    refine ⟨fun id => callsFrom_agree distinct collected collected', fun follow same id => ?_⟩
    have both : graph.contains id = true ↔ graph'.contains id = true := by
      rw [contains_iff_leadsTo distinct collected, contains_iff_leadsTo distinct collected']
      simp only [same, LeadsTo, follow]
    cases present : graph.contains id with
    | true => exact callsFrom_agree distinct collected collected' present (both.mp present)
    | false =>
      have absent : graph'.contains id = false := by
        rw [Bool.eq_false_iff, Ne, ← both, present]
        exact Bool.false_ne_true
      rw [CallGraph.callsFrom_of_not_contains present, CallGraph.callsFrom_of_not_contains absent]

theorem distinctEntities_of_nodup {recorded : Snapshot}
    (h : (recorded.cursors.toList.map CursorFacts.entity).Nodup) :
    recorded.frontend.DistinctEntities := by
  rintro c d id ⟨facts, known, entity⟩ ⟨facts', known', entity'⟩
  have at_c : (recorded.cursors.toList.map CursorFacts.entity)[c.index]? = some id := by
    rw [List.getElem?_map, Array.getElem?_toList]
    exact (congrArg (Option.map CursorFacts.entity) known).trans (congrArg some entity)
  have at_d : (recorded.cursors.toList.map CursorFacts.entity)[d.index]? = some id := by
    rw [List.getElem?_map, Array.getElem?_toList]
    exact (congrArg (Option.map CursorFacts.entity) known').trans (congrArg some entity')
  have bound : c.index < (recorded.cursors.toList.map CursorFacts.entity).length :=
    (List.getElem?_eq_some_iff.mp at_c).1
  have same : c.index = d.index :=
    (List.getElem?_inj bound h).mp (at_c.trans at_d.symm)
  have := c.positive
  have := d.positive
  exact Handle.ext_number (by unfold Handle.index at same; omega)

/-- Two functions that call each other, the first one itself as well, and a member function that
calls the first and a member of its own class. -/
def mutualCalls : Snapshot where
  cursors := #[
    { kind := .functionDecl, spelling := "even", entity := ⟨"even"⟩,
      children := [.afterCount 2, .afterCount 3] },
    { kind := .functionDecl, spelling := "odd", entity := ⟨"odd"⟩, children := [.afterCount 4] },
    { kind := .callExpr, spelling := "odd", entity := ⟨"first"⟩, type := some (.afterCount 0),
      referenced := some (.afterCount 1), tokens := ["odd", "(", ")"] },
    { kind := .callExpr, spelling := "even", entity := ⟨"second"⟩, type := some (.afterCount 0),
      referenced := some (.afterCount 0), tokens := ["even", "(", ")"] },
    { kind := .callExpr, spelling := "even", entity := ⟨"third"⟩, type := some (.afterCount 0),
      referenced := some (.afterCount 0), tokens := ["even", "(", ")"] },
    { kind := .classDecl, spelling := "Parity", entity := ⟨"Parity"⟩,
      children := [.afterCount 6, .afterCount 9] },
    { kind := .cxxMethod, spelling := "check", entity := ⟨"check"⟩,
      semanticParent := some (.afterCount 5), children := [.afterCount 7, .afterCount 8] },
    { kind := .callExpr, spelling := "even", entity := ⟨"fourth"⟩, type := some (.afterCount 0),
      referenced := some (.afterCount 0), tokens := ["even", "(", ")"] },
    { kind := .callExpr, spelling := "value", entity := ⟨"fifth"⟩, type := some (.afterCount 0),
      referenced := some (.afterCount 9), tokens := ["value", "(", ")"] },
    { kind := .cxxMethod, spelling := "value", entity := ⟨"value"⟩,
      semanticParent := some (.afterCount 5) }]
  types := #[{ kind := .int, spelling := "int" }]

def mutualGraph : CallGraph where
  entries := [
    (⟨"check"⟩, [⟨some ⟨"Parity"⟩, some ⟨"check"⟩, ⟨"even"⟩, ⟨"even"⟩⟩,
      ⟨some ⟨"Parity"⟩, some ⟨"check"⟩, ⟨"Parity"⟩, ⟨"value"⟩⟩]),
    (⟨"even"⟩, [⟨none, none, ⟨"odd"⟩, ⟨"odd"⟩⟩, ⟨none, none, ⟨"even"⟩, ⟨"even"⟩⟩]),
    (⟨"odd"⟩, [⟨none, none, ⟨"even"⟩, ⟨"even"⟩⟩])]

theorem graph_of_mutualCalls :
    (∀ c, ¬ Relation.TransGen mutualCalls.frontend.Child c c) ∧
    mutualCalls.frontend.DistinctEntities ∧
    mutualCalls.frontend.LeavesGraph {} [.afterCount 6] mutualGraph ∧
    mutualCalls.frontend.HasEdges mutualGraph (.afterCount 6) ∧
    mutualCalls.frontend.HasEdges mutualGraph (.afterCount 0) ∧
    mutualCalls.frontend.HasEdges mutualGraph (.afterCount 1) := by
  have acyclic : mutualCalls.frontend.Acyclic := Snapshot.acyclic_of_ordered (by decide)
  have distinct : mutualCalls.frontend.DistinctEntities :=
    distinctEntities_of_nodup (by decide)
  have asked : mutualCalls.frontend.LeavesGraph {} [.afterCount 6] mutualGraph :=
    ⟨_, _, rfl, by decide, rfl⟩
  have edges := (graph_of_requests acyclic.children distinct asked).2.1
  exact ⟨acyclic.children, distinct, asked, edges (.afterCount 6) ⟨"check"⟩ ⟨_, rfl, rfl⟩ rfl,
    edges (.afterCount 0) ⟨"even"⟩ ⟨_, rfl, rfl⟩ rfl,
    edges (.afterCount 1) ⟨"odd"⟩ ⟨_, rfl, rfl⟩ rfl⟩

end CxxTrees.Frontend
