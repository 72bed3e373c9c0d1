import Mathlib.Algebra.Order.BigOperators.Group.List
import Mathlib.Algebra.Order.Ring.Nat
import CxxTrees.Proofs.Frontend.Links
import CxxTrees.Proofs.Frontend.SourceOrder
import CxxTrees.Proofs.Outcome

/-!
# Walks on a stack

What is left of a walk is all there is at and below the cursors on its stack, in source order,
and the walk answers with the first of these that it looks for (`firstOnStack_ok`). Where
children run in no circle a cursor can be weighed so that it is heavier than its children
together. The stack then gets lighter with every cursor that is taken off it
(`stackWeight_pushAll_lt`), and at first it weighs less than the limit of the walk, which so
comes to its end (`firstBelow_eq_some_iff`).
-/

namespace CxxTrees.Frontend
variable {fe : Frontend} {c : Cursor} {facts : CursorFacts} {stack order : List Cursor}
  {limit : Nat}

/-- What is put on a stack from the last to the first lies on it in order. -/
@[simp] theorem pushAll_reverse (stack cs : List Cursor) :
    pushAll stack cs.reverse = cs ++ stack := by
  rw [pushAll, List.foldl_reverse, List.foldr_cons_eq_append']

/-! ### Answers -/

/-- The cursor is in the table, with `p`. -/
def holds (fe : Frontend) (p : CursorFacts → Bool) (c : Cursor) : Bool := (fe.cursor? c).any p

theorem sourceOrder_pushAll (known : fe.cursor? c = some facts)
    (pending : fe.SourceOrder (c :: stack) order) :
    ∃ rest, order = c :: rest ∧ fe.SourceOrder (pushAll stack facts.children.reverse) rest := by
  cases pending with
  | @cons _ facts' _ below after known' children rest =>
    obtain rfl := Option.mem_unique known known'
    rw [pushAll_reverse]
    exact ⟨below ++ after, rfl, sourceOrder_append children rest⟩

/-- Whatever is pending, a walk that answers has found the first cursor with `p` in the source
order of its stack, or there is none. -/
theorem firstOnStack_ok {p : CursorFacts → Bool} {answer : Option Cursor}
    (pending : fe.SourceOrder stack order) (h : fe.firstOnStack p limit stack = .ok answer) :
    answer = order.find? (fe.holds p) := by
  induction limit, stack using firstOnStack.induct generalizing order with
  | case1 limit =>
    cases pending
    rw [firstOnStack] at h
    exact (except_pure_ok h).symm
  | case2 c stack => cases h
  | case3 limit c stack ih =>
    obtain ⟨facts, looked, h⟩ := except_bind_ok h
    have known := cursor_ok looked
    have here : fe.holds p c = p facts := by rw [holds, known, Option.any_some]
    obtain ⟨rest, rfl, pending'⟩ := sourceOrder_pushAll known pending
    rw [List.find?_cons, here]
    split at h
    · rename_i found
      rw [found]
      exact (except_pure_ok h).symm
    · rename_i other
      rw [Bool.not_eq_true] at other
      rw [other]
      exact ih facts pending' h

/-- What is first put on the stack are the children, so a walk looks at all there is below. -/
theorem firstBelow_ok {p : CursorFacts → Bool} {answer : Option Cursor}
    (below : fe.OrderBelow c order) (h : fe.firstBelow p c = .ok answer) :
    answer = order.find? (fe.holds p) := by
  obtain ⟨facts, known, children⟩ := below
  obtain ⟨facts', looked, h⟩ := except_bind_ok h
  obtain rfl := Option.mem_unique known (cursor_ok looked)
  rw [pushAll_reverse, List.append_nil] at h
  exact firstOnStack_ok children h

/-- Of the cursors in a list and all there is below them, `d` is the first in source order that
has `p`. -/
inductive FirstAmong (fe : Frontend) (p : CursorFacts → Bool) : List Cursor → Cursor → Prop where
  | here {c : Cursor} {facts : CursorFacts} {cs : List Cursor} (known : fe.cursor? c = some facts)
      (found : p facts = true) : FirstAmong fe p (c :: cs) c
  | further {c d : Cursor} {facts : CursorFacts} {cs : List Cursor}
      (known : fe.cursor? c = some facts) (other : p facts = false)
      (rest : FirstAmong fe p (facts.children ++ cs) d) : FirstAmong fe p (c :: cs) d

theorem firstAmong_of_ok {p : CursorFacts → Bool} {d : Cursor}
    (h : fe.firstOnStack p limit stack = .ok (some d)) : fe.FirstAmong p stack d := by
  induction limit, stack using firstOnStack.induct with
  | case1 limit =>
    rw [firstOnStack] at h
    cases except_pure_ok h
  | case2 c stack => cases h
  | case3 limit c stack ih =>
    obtain ⟨facts, looked, h⟩ := except_bind_ok h
    have known := cursor_ok looked
    split at h
    · rename_i found
      obtain rfl := Option.some.inj (except_pure_ok h)
      exact .here known found
    · rename_i other
      have rest := ih facts h
      rw [pushAll_reverse] at rest
      exact .further known (Bool.eq_false_iff.mpr other) rest

theorem FirstAmong.hasCursor {p : CursorFacts → Bool} {d : Cursor}
    (first : fe.FirstAmong p stack d) : fe.HasCursor d := by
  induction first with
  | here known _ => exact ⟨_, known⟩
  | further _ _ _ ih => exact ih

theorem firstBelow_hasCursor {p : CursorFacts → Bool} {d : Cursor}
    (h : fe.firstBelow p c = .ok (some d)) : fe.HasCursor d := by
  obtain ⟨facts, _, h⟩ := except_bind_ok h
  exact (firstAmong_of_ok h).hasCursor

/-! ### Weights -/

theorem length_children_le (known : fe.cursor? c = some facts) :
    facts.children.length ≤ fe.allChildren.length := by
  have inside : c.index < fe.cursorCount := index_lt_of_hasCursor ⟨facts, known⟩
  have listed : facts.children ∈ (List.range fe.cursorCount).map fun i =>
      (fe.cursor? (.afterCount i)).elim [] (·.children) := by
    refine List.mem_map.mpr ⟨c.index, List.mem_range.mpr inside, ?_⟩
    rw [Handle.afterCount_index, known]
    rfl
  exact (List.sublist_flatten_of_mem listed).length_le

noncomputable def weight (fe : Frontend) (c : Cursor) : Nat :=
  (fe.allChildren.length + 1) ^ Handle.height fe.Child fe.cursorCount c

noncomputable def stackWeight (fe : Frontend) (stack : List Cursor) : Nat :=
  (stack.map fe.weight).sum

theorem weight_pos : 0 < fe.weight c := Nat.pow_pos (Nat.succ_pos _)

theorem weight_le_walkLimit : fe.weight c ≤ fe.walkLimit :=
  Nat.pow_le_pow_right (Nat.succ_pos _) Handle.height_le

/-- The children are lower than the cursor, and fewer than the base of the power. -/
theorem stackWeight_children_lt (acyclic : ∀ c, ¬ Relation.TransGen fe.Child c c)
    (known : fe.cursor? c = some facts) : fe.stackWeight facts.children < fe.weight c := by
  have inside : c.index < fe.cursorCount := index_lt_of_hasCursor ⟨facts, known⟩
  have high : 0 < Handle.height fe.Child fe.cursorCount c := Handle.height_pos inside
  obtain ⟨below, height⟩ := Nat.exists_eq_succ_of_ne_zero high.ne'
  have each : ∀ w ∈ facts.children.map fe.weight, w ≤ (fe.allChildren.length + 1) ^ below := by
    intro w member
    obtain ⟨d, child, rfl⟩ := List.mem_map.mp member
    have lower := Handle.height_lt_of_path acyclic inside (.single ⟨facts, known, child⟩)
    exact Nat.pow_le_pow_right (Nat.succ_pos _) (by omega)
  calc fe.stackWeight facts.children
      ≤ facts.children.length * (fe.allChildren.length + 1) ^ below := by
        simpa [stackWeight] using List.sum_le_card_nsmul _ _ each
    _ ≤ fe.allChildren.length * (fe.allChildren.length + 1) ^ below :=
        Nat.mul_le_mul_right _ (length_children_le known)
    _ < (fe.allChildren.length + 1) * (fe.allChildren.length + 1) ^ below :=
        Nat.mul_lt_mul_of_pos_right (Nat.lt_succ_self _) (Nat.pow_pos (Nat.succ_pos _))
    _ = fe.weight c := by rw [weight, height, Nat.pow_succ, Nat.mul_comm]

theorem stackWeight_pushAll_lt (acyclic : ∀ c, ¬ Relation.TransGen fe.Child c c)
    (known : fe.cursor? c = some facts) :
    fe.stackWeight (pushAll stack facts.children.reverse) < fe.stackWeight (c :: stack) := by
  have lighter := stackWeight_children_lt acyclic known
  rw [pushAll_reverse, stackWeight, List.map_append, List.sum_append, stackWeight, List.map_cons,
    List.sum_cons]
  exact Nat.add_lt_add_right lighter _

/-! ### Walks to the end -/

/-- A walk that may take off what its stack weighs gets to the first cursor with `p`. -/
theorem ok_of_firstAmong {p : CursorFacts → Bool} {d : Cursor}
    (acyclic : ∀ c, ¬ Relation.TransGen fe.Child c c) (first : fe.FirstAmong p stack d)
    (enough : fe.stackWeight stack ≤ limit) : fe.firstOnStack p limit stack = .ok (some d) := by
  induction first generalizing limit with
  | @here c facts cs known found =>
    cases limit with
    | zero =>
      have : 0 < fe.weight c := weight_pos
      rw [stackWeight, List.map_cons, List.sum_cons] at enough
      omega
    | succ limit =>
      rw [firstOnStack, cursor_of_known known]
      exact if_pos found
  | @further c d facts cs known other rest ih =>
    have lighter : fe.stackWeight (pushAll cs facts.children.reverse) < fe.stackWeight (c :: cs) :=
      stackWeight_pushAll_lt acyclic known
    cases limit with
    | zero => omega
    | succ limit =>
      rw [pushAll_reverse] at lighter
      rw [firstOnStack, cursor_of_known known]
      show (if p facts then _ else fe.firstOnStack p limit (pushAll cs facts.children.reverse)) = _
      rw [if_neg (Bool.eq_false_iff.mp other), pushAll_reverse]
      exact ih (by omega)

theorem firstBelow_eq_some_iff {p : CursorFacts → Bool} {d : Cursor}
    (acyclic : ∀ c, ¬ Relation.TransGen fe.Child c c) (known : fe.cursor? c = some facts) :
    fe.firstBelow p c = .ok (some d) ↔ fe.FirstAmong p facts.children d := by
  have walk : fe.firstBelow p c = fe.firstOnStack p fe.walkLimit facts.children := by
    rw [firstBelow, cursor_of_known known]
    show fe.firstOnStack p fe.walkLimit (pushAll [] facts.children.reverse) = _
    rw [pushAll_reverse, List.append_nil]
  have enough : fe.stackWeight facts.children ≤ fe.walkLimit :=
    (stackWeight_children_lt acyclic known).le.trans weight_le_walkLimit
  rw [walk]
  exact ⟨firstAmong_of_ok, fun first => ok_of_firstAmong acyclic first enough⟩

end CxxTrees.Frontend
