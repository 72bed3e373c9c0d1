import CxxTrees.Proofs.Frontend.Complete
import CxxTrees.Proofs.Frontend.Stack
import CxxTrees.Proofs.Stops

/-!
# Climbs and descents

Where the walks along semantic parents and along children can stop. They have no
faults: each stops at a handle that is in no table, if a link leads there, and runs
out of steps only where the links run in a circle.
-/

namespace CxxTrees
variable {P : Stop → Prop}

/-- A number of steps is enough for a descent from `a`, unless `P` admits to run out of them. -/
def Handle.Enough {table : Table} (P : Stop → Prop) (link : Handle table → Handle table → Prop)
    (count limit : Nat) (a : Handle table) : Prop :=
  P .endless ∨ Handle.height link count a < limit

namespace Handle
variable {table : Table} {link : Handle table → Handle table → Prop} {count limit : Nat}
  {a b : Handle table}

theorem enough_count (limit : Nat) (h : count < limit) : Enough P link count limit a :=
  .inr (height_le.trans_lt h)

theorem not_enough_zero (h : Enough P link count 0 a) : P .endless :=
  h.resolve_right (Nat.not_lt_zero _)

theorem enough_along (acyclic : P .endless ∨ ∀ c, ¬ Relation.TransGen link c c)
    (inside : a.index < count) (path : Relation.TransGen link a b)
    (h : Enough P link count (limit + 1) a) : Enough P link count limit b := by
  rcases h with admitted | bound
  · exact .inl admitted
  rcases acyclic with admitted | acyclic
  · exact .inl admitted
  · have lower := height_lt_of_path acyclic inside path
    exact .inr (by omega)

theorem enough_before (path : Relation.ReflTransGen link a b)
    (h : Enough P link count limit a) : Enough P link count limit b :=
  h.imp_right (height_le_of_path path).trans_lt

end Handle

namespace Frontend
open Handle

/-- `P` admits some faults of spellings, and whatever the tables of `fe` leave to stop at. -/
structure AdmitsFaults (fe : Frontend) (faults : Fault → Prop) (P : Stop → Prop) : Prop where
  spelling : ∀ {fault : Fault}, faults fault → P (.fault fault)
  parts : (∀ {fault : Fault}, fault.OfParts → P (.fault fault)) ∨ fe.Complete
  outside : P .outsideTable ∨ fe.Closed
  endless : P .endless ∨ fe.Acyclic

/-- `P` admits every stop that building the node of a type that is not invalid can come to. -/
abbrev AdmitsNode (fe : Frontend) (P : Stop → Prop) : Prop := fe.AdmitsFaults Fault.OfReading P

/-- `P` admits every stop that building a type that is not invalid can come to. -/
abbrev AdmitsBuild (fe : Frontend) (P : Stop → Prop) : Prop := fe.AdmitsFaults Fault.OfSpelling P

/-- `P` admits every stop that requests to `fe` can come to. -/
structure Admits (fe : Frontend) (P : Stop → Prop) : Prop extends
    toAdmitsBuild : fe.AdmitsBuild P where
  invalid : ∀ spelling, P (.fault (.invalidType spelling))
  untyped : ∀ cursor, P (.fault (.missingCursorType cursor))

/-- A look-up of the cursor stops only by `P`. -/
def Inside (fe : Frontend) (P : Stop → Prop) (c : Cursor) : Prop :=
  P .outsideTable ∨ fe.HasCursor c

/-- A look-up of the type stops only by `P`. -/
def InsideType (fe : Frontend) (P : Stop → Prop) (t : TypeHandle) : Prop :=
  P .outsideTable ∨ fe.HasType t

variable {fe : Frontend} {c d template : Cursor} {t u : TypeHandle} {limit : Nat}

theorem cursor_stopsBy (inside : fe.Inside P c) : StopsBy P (fe.cursor c) := by
  intro stop h
  unfold cursor at h
  split at h
  · cases h
  · rename_i unknown
    cases h
    rcases inside with admitted | ⟨facts, known⟩
    · exact admitted
    · rw [unknown] at known
      cases known

theorem type_stopsBy (inside : fe.InsideType P t) : StopsBy P (fe.type t) := by
  intro stop h
  unfold type at h
  split at h
  · cases h
  · rename_i unknown
    cases h
    rcases inside with admitted | ⟨facts, known⟩
    · exact admitted
    · rw [unknown] at known
      cases known

/-- A walk runs out of steps only if its stack weighs more than it may take off it. -/
theorem firstOnStack_stopsBy {p : CursorFacts → Bool} {stack : List Cursor}
    (acyclic : P .endless ∨ ∀ c, ¬ Relation.TransGen fe.Child c c)
    (inside : ∀ c ∈ stack, ∀ d, Relation.ReflTransGen fe.Child c d → fe.Inside P d)
    (enough : P .endless ∨ fe.stackWeight stack ≤ limit) :
    StopsBy P (fe.firstOnStack p limit stack) := by
  induction limit, stack using firstOnStack.induct with
  | case1 limit =>
    rw [firstOnStack]
    exact stopsBy_pure none
  | case2 c stack =>
    refine stopsBy_error (enough.resolve_right fun light => ?_)
    have heavy : 0 < fe.weight c := weight_pos
    rw [stackWeight, List.map_cons, List.sum_cons] at light
    omega
  | case3 limit c stack ih =>
    have here : fe.Inside P c := inside c List.mem_cons_self c .refl
    refine stopsBy_bind (cursor_stopsBy here) fun facts looked => ?_
    have known := cursor_ok looked
    split
    · exact stopsBy_pure _
    · refine ih facts (fun d member e path => ?_) ?_
      · rw [pushAll_reverse] at member
        rcases List.mem_append.mp member with child | pending
        · exact inside c List.mem_cons_self e (.head ⟨facts, known, child⟩ path)
        · exact inside d (List.mem_cons_of_mem c pending) e path
      · rcases acyclic with admitted | acyclic
        · exact .inl admitted
        · refine enough.imp_right fun light => ?_
          have lighter : fe.stackWeight (pushAll stack facts.children.reverse) <
              fe.stackWeight (c :: stack) := stackWeight_pushAll_lt acyclic known
          omega

theorem firstBelow_stopsBy_of_inside {p : CursorFacts → Bool}
    (acyclic : P .endless ∨ ∀ c, ¬ Relation.TransGen fe.Child c c)
    (inside : ∀ d, Relation.ReflTransGen fe.Child c d → fe.Inside P d) :
    StopsBy P (fe.firstBelow p c) := by
  refine stopsBy_bind (cursor_stopsBy (inside c .refl)) fun facts looked => ?_
  have known := cursor_ok looked
  rw [pushAll_reverse, List.append_nil]
  refine firstOnStack_stopsBy acyclic (fun d child e path => ?_) ?_
  · exact inside e (.head ⟨facts, known, child⟩ path)
  · refine acyclic.imp_right fun acyclic => ?_
    exact (stackWeight_children_lt acyclic known).le.trans weight_le_walkLimit

theorem firstBelow_eq {p : CursorFacts → Bool} {order : List Cursor}
    (acyclic : ∀ c, ¬ Relation.TransGen fe.Child c c)
    (known : ∀ d, Relation.ReflTransGen fe.Child c d → fe.HasCursor d)
    (below : fe.OrderBelow c order) : fe.firstBelow p c = .ok (order.find? (fe.holds p)) := by
  have ends : StopsBy (fun _ => False) (fe.firstBelow p c) :=
    firstBelow_stopsBy_of_inside (.inr acyclic) fun d path => .inr (known d path)
  cases h : fe.firstBelow p c with
  | ok answer => rw [firstBelow_ok below h]
  | error stop => exact (ends stop h).elim

namespace AdmitsFaults
variable {faults : Fault → Prop} (admits : fe.AdmitsFaults faults P)
include admits

theorem named {facts : CursorFacts} (known : fe.cursor? c = some facts) (link : facts.Names d) :
    fe.Inside P d := admits.outside.imp_right fun closed => closed.named known link

theorem typed {facts : CursorFacts} (known : fe.cursor? c = some facts)
    (link : facts.type = some t) : fe.InsideType P t :=
  admits.outside.imp_right fun closed => closed.typed known link

theorem part {facts : TypeFacts} (known : fe.type? t = some facts) (link : facts.HasPart u) :
    fe.InsideType P u := admits.outside.imp_right fun closed => closed.part known link

theorem canonical {facts : TypeFacts} (known : fe.type? t = some facts) :
    fe.InsideType P facts.canonical :=
  admits.outside.imp_right fun closed => closed.canonical known

theorem declaration {facts : TypeFacts} (known : fe.type? t = some facts)
    (link : facts.declaration = some c) : fe.Inside P c :=
  admits.outside.imp_right fun closed => closed.declaration known link

theorem enough_parent (enough : Enough P fe.Parent fe.cursorCount (limit + 1) c)
    (path : Relation.TransGen fe.Parent c d) (known : fe.HasCursor c) :
    Enough P fe.Parent fe.cursorCount limit d :=
  enough_along (admits.endless.imp_right Acyclic.parents) (index_lt_of_hasCursor known) path enough

theorem enough_child {facts : CursorFacts}
    (enough : Enough P fe.Child fe.cursorCount (limit + 1) c)
    (known : fe.cursor? c = some facts) (child : d ∈ facts.children) :
    Enough P fe.Child fe.cursorCount limit d :=
  enough_along (admits.endless.imp_right Acyclic.children) (index_lt_of_hasCursor ⟨facts, known⟩)
    (.single ⟨facts, known, child⟩) enough

/-! ### Climbs -/

theorem templateAroundWithin_stopsBy (inside : fe.Inside P c)
    (enough : Enough P fe.Parent fe.cursorCount limit c) :
    StopsBy P (fe.templateAroundWithin limit c) := by
  induction limit generalizing c with
  | zero => exact stopsBy_error (not_enough_zero enough)
  | succ limit ih =>
    refine stopsBy_bind (cursor_stopsBy inside) fun facts looked => ?_
    have known := cursor_ok looked
    split
    · exact stopsBy_pure _
    · split
      · exact stopsBy_pure none
      · rename_i parent link
        have inside' : fe.Inside P parent := admits.named known (.parent link)
        refine stopsBy_bind (cursor_stopsBy inside') fun facts' _ => ?_
        split
        · exact stopsBy_pure none
        · refine ih inside' (admits.enough_parent enough (.single ⟨facts, known, link⟩) ?_)
          exact ⟨facts, known⟩

theorem templateAround_stopsBy (inside : fe.Inside P c) : StopsBy P (fe.templateAround c) :=
  admits.templateAroundWithin_stopsBy inside (enough_count _ (Nat.lt_succ_self _))

omit admits in
/-- The template around a cursor is found on the way outwards. -/
theorem templateAroundWithin_path (h : fe.templateAroundWithin limit c = .ok (some template)) :
    Relation.ReflTransGen fe.Parent c template ∧ fe.HasCursor template := by
  induction limit generalizing c with
  | zero => cases h
  | succ limit ih =>
    obtain ⟨facts, looked, h⟩ := except_bind_ok h
    have known := cursor_ok looked
    split at h
    · obtain rfl := Option.some.inj (except_pure_ok h)
      exact ⟨.refl, facts, known⟩
    · split at h
      · cases except_pure_ok h
      · rename_i parent link
        obtain ⟨facts', _, h⟩ := except_bind_ok h
        split at h
        · cases except_pure_ok h
        · obtain ⟨path, known'⟩ := ih h
          exact ⟨.head ⟨facts, known, link⟩ path, known'⟩

/-! ### Descents -/

theorem fromRightWithin_stopsBy (inside : fe.Inside P c)
    (enough : Enough P fe.Child fe.cursorCount limit c) :
    StopsBy P (fe.fromRightWithin limit c) := by
  induction limit generalizing c with
  | zero => exact stopsBy_error (not_enough_zero enough)
  | succ limit ih =>
    refine stopsBy_bind (cursor_stopsBy inside) fun facts looked => ?_
    have known := cursor_ok looked
    refine stopsBy_bind (mapM_stopsBy fun child member => ?_) fun below _ => stopsBy_pure _
    have child := List.mem_reverse.mp member
    exact ih (admits.named known (.child child)) (admits.enough_child enough known child)

omit admits in
theorem fromRightWithin_hasCursor {order : List Cursor}
    (h : fe.fromRightWithin limit c = .ok order) : ∀ d ∈ order, fe.HasCursor d := by
  induction limit generalizing c order with
  | zero => cases h
  | succ limit ih =>
    obtain ⟨facts, looked, h⟩ := except_bind_ok h
    obtain ⟨below, walked, h⟩ := except_bind_ok h
    obtain rfl := except_pure_ok h
    intro d member
    rcases List.mem_cons.mp member with rfl | member
    · exact ⟨facts, cursor_ok looked⟩
    · obtain ⟨part, member', member⟩ := List.mem_flatten.mp member
      obtain ⟨child, _, found⟩ := mapM_ok walked part member'
      exact ih found d member

theorem firstBelow_stopsBy {p : CursorFacts → Bool} (inside : fe.Inside P c) :
    StopsBy P (fe.firstBelow p c) := by
  refine firstBelow_stopsBy_of_inside (admits.endless.imp_right Acyclic.children) fun d path => ?_
  induction path with
  | refl => exact inside
  | tail _ link _ =>
    obtain ⟨facts, known, child⟩ := link
    exact admits.named known (.child child)

theorem fromRight_stopsBy (inside : fe.Inside P c) : StopsBy P (fe.fromRight c) :=
  admits.fromRightWithin_stopsBy inside (enough_count _ (Nat.lt_succ_self _))

end AdmitsFaults

end Frontend

end CxxTrees
