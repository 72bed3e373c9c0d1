import CxxTrees.Proofs.Build.Stops
import CxxTrees.Proofs.Calls.Walk
import CxxTrees.Session

/-!
# Stops of requests

References may lead anywhere, and calls back to where they came from. What bounds a walk
is the graph: a body is begun only under an id without an entry, and then has one. So the
walks inside of a walk share fewer cursors without an entry than it had (`Room`), and with
that no request stops but by a fault, at a link that leaves the tables, or where types,
children or semantic parents run in a circle.
-/

namespace CxxTrees
open Handle
variable {P : Stop → Prop} {I : RunState → Prop}

/-- The handles of a request are in the tables. -/
def Frontend.HasRequest (fe : Frontend) : Request → Prop
  | .type site => fe.HasCursor site.cursor ∧ fe.HasType site.type
  | .expression _ c => fe.HasCursor c
  | .calls c => fe.HasCursor c

/-! ### Unreached cursors -/

def CallGraph.Within (graph graph' : CallGraph) : Prop :=
  ∀ id, graph.contains id = true → graph'.contains id = true

namespace Frontend
variable {fe : Frontend} {options : Options} {scope : CallScope} {c : Cursor} {f id : EntityId}
  {graph graph' : CallGraph} {limit : Nat} {s t : RunState} {collect : Cursor → Run Unit}
  {facts : CursorFacts} {request : Request}

open Classical in
/-- Where in its table the cursors are whose ids have no entry. -/
noncomputable def unreached (fe : Frontend) (graph : CallGraph) : Finset Nat :=
  (Finset.range fe.cursorCount).filter fun i =>
    ∃ c : Cursor, c.index = i ∧ ∃ id, fe.HasEntity c id ∧ graph.contains id = false

theorem mem_unreached {i : Nat} : i ∈ fe.unreached graph ↔ i < fe.cursorCount ∧
    ∃ c : Cursor, c.index = i ∧ ∃ id, fe.HasEntity c id ∧ graph.contains id = false := by
  simp only [unreached, Finset.mem_filter, Finset.mem_range]

theorem card_unreached_le : (fe.unreached graph).card ≤ fe.cursorCount := by
  have most : fe.unreached graph ⊆ Finset.range fe.cursorCount := by
    intro i member
    exact Finset.mem_range.mpr (mem_unreached.mp member).1
  simpa only [Finset.card_range] using Finset.card_le_card most

theorem unreached_subset (grown : graph.Within graph') :
    fe.unreached graph' ⊆ fe.unreached graph := by
  intro i member
  obtain ⟨inside, c, index, id, entity, absent⟩ := mem_unreached.mp member
  refine mem_unreached.mpr ⟨inside, c, index, id, entity, ?_⟩
  rw [Bool.eq_false_iff] at absent ⊢
  exact fun present => absent (grown id present)

theorem card_unreached_insert_lt (entity : fe.HasEntity c id) (absent : graph.contains id = false) :
    (fe.unreached (graph.insert id)).card < (fe.unreached graph).card := by
  have inside : c.index < fe.cursorCount := by
    obtain ⟨facts, known, _⟩ := entity
    exact index_lt_of_hasCursor ⟨facts, known⟩
  have grown : graph.Within (graph.insert id) :=
    fun other present => CallGraph.contains_insert.mpr (.inl present)
  apply Finset.card_lt_card
  refine (Finset.ssubset_iff_of_subset (unreached_subset grown)).mpr ⟨c.index, ?_, ?_⟩
  · exact mem_unreached.mpr ⟨inside, c, rfl, id, entity, absent⟩
  · intro member
    obtain ⟨_, c', index, id', entity', absent'⟩ := mem_unreached.mp member
    obtain rfl := ext_index index
    obtain rfl := hasEntity_unique entity entity'
    have marked : (graph.insert id).contains id = true := CallGraph.contains_insert.mpr (.inr rfl)
    rw [marked] at absent'
    cases absent'

/-- Fewer than `limit` bodies can still be begun, unless `P` admits to run out of steps. -/
def Room (fe : Frontend) (P : Stop → Prop) (limit : Nat) (s : RunState) : Prop :=
  P .endless ∨ (fe.unreached s.graph).card < limit

theorem room_bodyLimit : fe.Room P fe.bodyLimit s := .inr (Nat.lt_succ_of_le card_unreached_le)

theorem room_grown (room : fe.Room P limit s) (grown : s.graph.Within t.graph) :
    fe.Room P limit t :=
  room.imp_right (Finset.card_le_card (unreached_subset grown)).trans_lt

theorem room_succ (room : fe.Room P limit s) : fe.Room P (limit + 1) s :=
  room.imp_right Nat.lt_succ_of_lt

theorem room_insert (room : fe.Room P (limit + 1) s) (entity : fe.HasEntity c id)
    (absent : s.graph.contains id = false) :
    fe.Room P limit { s with graph := s.graph.insert id } := by
  refine room.imp_right fun bound => ?_
  have fewer := card_unreached_insert_lt entity absent
  show (fe.unreached (s.graph.insert id)).card < limit
  omega

/-! ### One cursor -/

namespace Admits
variable (admits : fe.Admits P)
include admits

theorem callTarget_stopsBy (known : fe.cursor? c = some facts) :
    StopsBy P (fe.callTarget facts) := by
  unfold callTarget
  split
  · exact stopsBy_pure none
  · rename_i referenced link
    have target' : fe.Inside P referenced := admits.named known (.referenced link)
    refine stopsBy_bind (cursor_stopsBy target') fun target looked => ?_
    split
    · split
      · exact stopsBy_pure none
      · rename_i ofClass link'
        have class' : fe.Inside P ofClass := admits.named (cursor_ok looked) (.parent link')
        exact stopsBy_return (cursor_stopsBy class')
    · exact stopsBy_pure _
    · refine stopsBy_bind (admits.firstBelow_stopsBy target') fun found looked' => ?_
      cases found with
      | none => exact stopsBy_pure none
      | some pattern =>
        have pattern' : fe.Inside P pattern :=
          .inr (firstBelow_hasCursor looked')
        exact stopsBy_return (cursor_stopsBy pattern')
    · exact stopsBy_pure none

/-- A body that a call leads to is that of the function it refers to. -/
theorem callTarget_body_inside {target : CallTarget} {g : Cursor}
    (known : fe.cursor? c = some facts) (h : fe.callTarget facts = .ok (some target))
    (body : target.body = some g) : fe.Inside P g := by
  cases link : facts.referenced with
  | none =>
    simp only [callTarget, link] at h
    cases except_pure_ok h
  | some referenced =>
    have ⟨facts', known'⟩ : fe.HasCursor referenced := by
      simp only [callTarget, link] at h
      obtain ⟨facts', looked, _⟩ := except_bind_ok h
      exact ⟨facts', cursor_ok looked⟩
    have same := callTarget_body link known' h
    rw [Option.bind_some, body] at same
    split at same
    · obtain rfl := Option.some.inj same
      exact admits.named known (.referenced link)
    · cases same

theorem recordAround_stopsBy (inside : fe.Inside P c) : StopsBy P (fe.recordAround c) := by
  refine stopsBy_bind (cursor_stopsBy inside) fun facts looked => ?_
  split
  · exact stopsBy_pure none
  · rename_i parent link
    have parent' : fe.Inside P parent := admits.named (cursor_ok looked) (.parent link)
    exact stopsBy_return (cursor_stopsBy parent')

omit admits in
theorem recordAround_hasCursor {record : Cursor} (h : fe.recordAround c = .ok (some record)) :
    fe.HasCursor record := by
  obtain ⟨facts, _, h⟩ := except_bind_ok h
  split at h
  · cases except_pure_ok h
  · obtain ⟨facts', looked, h⟩ := except_bind_ok h
    have same := except_pure_ok h
    split at same
    · obtain rfl := Option.some.inj same
      exact ⟨facts', cursor_ok looked⟩
    · cases same

theorem scopeOf_stopsBy (inside : fe.Inside P c) : StopsBy P (fe.scopeOf c) := by
  refine stopsBy_bind (cursor_stopsBy inside) fun facts _ => ?_
  refine stopsBy_bind (admits.recordAround_stopsBy inside) fun record looked => ?_
  split
  · cases record with
    | none => exact stopsBy_pure _
    | some record =>
      have record' : fe.Inside P record := .inr (recordAround_hasCursor looked)
      exact stopsBy_return (cursor_stopsBy record')
  · exact stopsBy_pure _

/-! ### Calls inside of calls -/

section
variable (collecting : ∀ g, fe.Inside P g → (collect g).StopsBy P I)
  (grows : ∀ s t, I s → s.graph.Within t.graph → I t)
include collecting grows

theorem callWith_stopsBy (known : fe.cursor? c = some facts) :
    (fe.callWith options collect scope facts).StopsBy P I := by
  refine Run.stopsBy_look (admits.callTarget_stopsBy known) fun target looked => ?_
  cases target with
  | none =>
    have reported : (reportUnresolved facts).StopsBy P I :=
      Run.stopsBy_modify fun s init => grows s _ init fun _ present => present
    exact Run.stopsBy_bind reported fun _ => Run.stopsBy_pure none
  | some target =>
    dsimp only
    split
    · exact Run.stopsBy_pure _
    · rename_i g body
      have inside : fe.Inside P g := admits.callTarget_body_inside known looked body
      split
      · exact Run.stopsBy_return (collecting g inside)
      · exact Run.stopsBy_pure _

theorem expressionWith_stopsBy (inside : fe.Inside P c) :
    (fe.expressionWith options collect scope c).StopsBy P I := by
  refine Run.stopsBy_look (cursor_stopsBy inside) fun facts looked => ?_
  have known := cursor_ok looked
  split
  · exact Run.stopsBy_throw (admits.untyped _)
  · rename_i type link
    have site : fe.InsideSite P ⟨c, type⟩ := ⟨inside, admits.typed known link⟩
    have built : (fe.typeIn Run ⟨c, type⟩).StopsBy P I := by
      rw [typeIn_run]
      apply Run.stopsBy_build (admits.typeAt_stopsBy site (.inl admits.invalid))
      intro s t init same
      exact grows s t init fun id present => same ▸ present
    refine Run.stopsBy_bind built fun type => ?_
    split
    · split
      · exact Run.stopsBy_pure none
      · refine Run.stopsBy_bind (admits.callWith_stopsBy collecting grows known) fun call => ?_
        cases call with
        | none => exact Run.stopsBy_pure none
        | some call => exact Run.stopsBy_pure _
    · split
      · exact Run.stopsBy_pure _
      · exact Run.stopsBy_pure _

theorem recordWith_stopsBy (inside : fe.Inside P c) :
    (fe.recordWith options collect scope f c).StopsBy P I := by
  refine Run.stopsBy_look (cursor_stopsBy inside) fun facts _ => ?_
  split
  · have expression : (fe.expressionWith options collect scope c).StopsBy P I :=
      admits.expressionWith_stopsBy collecting grows inside
    refine Run.stopsBy_bind expression fun e => ?_
    cases e with
    | none => exact Run.stopsBy_pure ()
    | some e =>
      dsimp only
      split
      · exact Run.stopsBy_pure ()
      · apply Run.stopsBy_modify
        intro s init
        exact grows s _ init fun id present => CallGraph.contains_record.mpr (.inl present)
  · exact Run.stopsBy_pure ()

end

theorem visitBelowWithin_stopsBy {visit : Cursor → Run Unit}
    (each : ∀ d, fe.Inside P d → (visit d).StopsBy P I) (inside : fe.Inside P c)
    (enough : Enough P fe.Child fe.cursorCount limit c) :
    (fe.visitBelowWithin visit limit c).StopsBy P I := by
  induction limit generalizing c with
  | zero => exact Run.stopsBy_throw (not_enough_zero enough)
  | succ limit ih =>
    refine Run.stopsBy_look (cursor_stopsBy inside) fun facts looked => ?_
    have known := cursor_ok looked
    apply Run.forM_stopsBy
    intro child member
    have child' : fe.Inside P child := admits.named known (.child member)
    refine Run.stopsBy_bind (each child child') fun _ => ih child' ?_
    exact admits.enough_child enough known member

theorem collectWithin_stopsBy (inside : fe.Inside P c) :
    (fe.collectWithin options limit c).StopsBy P (fe.Room P limit) := by
  induction limit generalizing c with
  | zero =>
    intro s room
    have admitted : P .endless := room.resolve_right (Nat.not_lt_zero _)
    exact Run.stopsBy_throw admitted s room
  | succ limit ih =>
    refine Run.stopsBy_look (cursor_stopsBy inside) fun facts looked => ?_
    have known := cursor_ok looked
    have entity : fe.HasEntity c facts.entity := ⟨facts, known, rfl⟩
    -- The walk is begun only if its id is fresh, and then with a cursor less to come.
    refine Run.stopsBy_reach (Run.stopsBy_pure ()) ?_
      (fun s room absent => room_insert room entity absent) fun s => room_succ
    have begun : (Run.emit (.walking c facts.spelling)).StopsBy P (fe.Room P limit) :=
      Run.stopsBy_modify fun s room => room
    refine Run.stopsBy_bind begun fun _ => ?_
    refine Run.stopsBy_look (admits.scopeOf_stopsBy inside) fun scope _ => ?_
    refine admits.visitBelowWithin_stopsBy ?_ inside (enough_count _ (Nat.lt_succ_self _))
    intro d inside'
    apply admits.recordWith_stopsBy _ _ inside'
    · intro g inside''
      exact ih inside''
    · intro s t room grown
      exact room_grown room grown

/-! ### Requests -/

theorem collect_stopsBy (inside : fe.Inside P c) :
    (fe.collect options c).StopsBy P (fe.Room P fe.bodyLimit) :=
  admits.collectWithin_stopsBy inside

theorem callsOf_stopsBy (inside : fe.Inside P c) :
    (fe.callsOf options c).StopsBy P (fe.Room P fe.bodyLimit) := by
  refine Run.stopsBy_bind (admits.collect_stopsBy inside) fun _ => ?_
  refine Run.stopsBy_bind Run.stopsBy_get fun s => ?_
  exact Run.stopsBy_look (cursor_stopsBy inside) fun _ _ => Run.stopsBy_pure _

theorem expressionAt_stopsBy (inside : fe.Inside P c) :
    (fe.expressionAt options scope c).StopsBy P (fe.Room P fe.bodyLimit) :=
  admits.expressionWith_stopsBy (fun _ => admits.collect_stopsBy) (fun _ _ => room_grown) inside

/-- A request stops only by `P`, whatever was asked for before. -/
theorem answer_stopsBy (inside : P .outsideTable ∨ fe.HasRequest request) :
    (fe.answer options request).StopsBy P (fe.Room P fe.bodyLimit) := by
  cases request with
  | type site =>
    have site' : fe.InsideSite P site :=
      ⟨inside.imp_right And.left, inside.imp_right And.right⟩
    have built : (fe.typeIn Run site).StopsBy P (fe.Room P fe.bodyLimit) := by
      rw [typeIn_run]
      apply Run.stopsBy_build (admits.typeAt_stopsBy site' (.inl admits.invalid))
      exact fun s t room same => room_grown room fun id present => same ▸ present
    exact Run.stopsBy_return built
  | expression scope c => exact Run.stopsBy_return (admits.expressionAt_stopsBy inside)
  | calls c => exact Run.stopsBy_return (admits.callsOf_stopsBy inside)

end Admits

end Frontend

theorem Session.ask_stopsBy {s : Session} {request : Request} {stop : Stop}
    (admits : s.frontend.Admits P) (inside : P .outsideTable ∨ s.frontend.HasRequest request)
    (stopped : (s.ask request).1 = .error stop) : P stop := by
  unfold ask at stopped
  split at stopped
  · cases stopped
  · rename_i stop' state h
    cases stopped
    have room : s.frontend.Room P s.frontend.bodyLimit s.state := Frontend.room_bodyLimit
    exact (admits.answer_stopsBy inside s.state room).1 stop state h

end CxxTrees
