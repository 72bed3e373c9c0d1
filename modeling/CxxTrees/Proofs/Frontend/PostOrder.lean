import CxxTrees.Proofs.Frontend.Links
import CxxTrees.Proofs.Frontend.SourceOrder
import CxxTrees.Proofs.Stops

/-!
# Post-order

The cursors at and below a list of cursors, each behind its children. A walk that takes
the last child first comes by them in reverse (`postOrder_of_fromRight`), and it ends where
the children run in no circle.
-/

namespace CxxTrees.Frontend
variable {fe : Frontend} {c d : Cursor} {cs order : List Cursor} {limit : Nat}

inductive PostOrder (fe : Frontend) : List Cursor → List Cursor → Prop where
  | nil : PostOrder fe [] []
  | cons {c : Cursor} {facts : CursorFacts} {cs below after : List Cursor}
      (known : fe.cursor? c = some facts) (children : PostOrder fe facts.children below)
      (rest : PostOrder fe cs after) : PostOrder fe (c :: cs) (below ++ c :: after)

theorem postOrder_unique {other : List Cursor} (first : fe.PostOrder cs order)
    (second : fe.PostOrder cs other) : order = other := by
  induction first generalizing other with
  | nil =>
    cases second
    rfl
  | cons known children rest ihBelow ihAfter =>
    cases second with
    | cons known' children' rest' =>
      obtain rfl := Option.mem_unique known known'
      rw [ihBelow children', ihAfter rest']

theorem postOrder_append {cs' order' : List Cursor} (first : fe.PostOrder cs order)
    (second : fe.PostOrder cs' order') : fe.PostOrder (cs ++ cs') (order ++ order') := by
  induction first with
  | nil => exact second
  | cons known children rest _ ih =>
    rw [List.append_assoc, List.cons_append]
    exact .cons known children ih

theorem child_iff {facts : CursorFacts} (known : fe.cursor? c = some facts) :
    fe.Child c d ↔ d ∈ facts.children := by
  constructor
  · rintro ⟨facts', known', child⟩
    rwa [Option.mem_unique known known']
  · exact fun child => ⟨facts, known, child⟩

theorem Closed.hasCursor_below (closed : fe.Closed) (known : fe.HasCursor c) :
    ∀ d, Relation.ReflTransGen fe.Child c d → fe.HasCursor d := by
  intro d path
  induction path with
  | refl => exact known
  | tail _ link _ =>
    obtain ⟨facts, found, child⟩ := link
    exact closed.named found (.child child)

/-- What is listed is what the children lead to. -/
theorem mem_postOrder (post : fe.PostOrder cs order) :
    d ∈ order ↔ ∃ c ∈ cs, Relation.ReflTransGen fe.Child c d := by
  induction post with
  | nil => simp
  | @cons c facts cs below after known children rest ihBelow ihAfter =>
    have inside : Relation.ReflTransGen fe.Child c d ↔ c = d ∨ d ∈ below := by
      rw [Relation.ReflTransGen.cases_head_iff, ihBelow]
      simp only [child_iff known]
    rw [List.exists_mem_cons_iff, inside, List.mem_append, List.mem_cons, ihAfter]
    constructor
    · rintro (below | rfl | after)
      · exact .inl (.inr below)
      · exact .inl (.inl rfl)
      · exact .inr after
    · rintro ((rfl | below) | after)
      · exact .inr (.inl rfl)
      · exact .inl below
      · exact .inr (.inr after)

/-! ### The walk from the right -/

theorem postOrder_of_mapM {walk : Cursor → Except Stop (List Cursor)} {parts : List (List Cursor)}
    (each : ∀ d part, walk d = .ok part → fe.PostOrder [d] part.reverse)
    (h : cs.mapM walk = .ok parts) : fe.PostOrder cs.reverse parts.flatten.reverse := by
  induction cs generalizing parts with
  | nil =>
    obtain rfl := except_pure_ok h
    exact .nil
  | cons c cs ih =>
    rw [List.mapM_cons] at h
    obtain ⟨part, first, h⟩ := except_bind_ok h
    obtain ⟨parts, rest, h⟩ := except_bind_ok h
    obtain rfl := except_pure_ok h
    rw [List.reverse_cons, List.flatten_cons, List.reverse_append]
    exact postOrder_append (ih rest) (each c part first)

theorem postOrder_of_fromRightWithin (h : fe.fromRightWithin limit c = .ok order) :
    fe.PostOrder [c] order.reverse := by
  induction limit generalizing c order with
  | zero => cases h
  | succ limit ih =>
    obtain ⟨facts, looked, h⟩ := except_bind_ok h
    obtain ⟨parts, walked, h⟩ := except_bind_ok h
    obtain rfl := except_pure_ok h
    have children := postOrder_of_mapM (fun d part => ih) walked
    rw [List.reverse_reverse] at children
    rw [List.reverse_cons]
    exact .cons (cursor_ok looked) children .nil

theorem postOrder_of_fromRight (h : fe.fromRight c = .ok order) :
    fe.PostOrder [c] order.reverse := postOrder_of_fromRightWithin h

/-- Below a cursor that only leads to cursors in the table, the height is depth enough. -/
theorem exists_fromRightWithin (acyclic : ∀ c, ¬ Relation.TransGen fe.Child c c)
    (known : ∀ d, Relation.ReflTransGen fe.Child c d → fe.HasCursor d)
    (enough : Handle.height fe.Child fe.cursorCount c < limit) :
    ∃ order, fe.fromRightWithin limit c = .ok order := by
  induction limit generalizing c with
  | zero => exact absurd enough (Nat.not_lt_zero _)
  | succ limit ih =>
    obtain ⟨facts, found⟩ := known c .refl
    have each : ∀ d ∈ facts.children.reverse, ∃ order, fe.fromRightWithin limit d = .ok order := by
      intro d member
      have child : fe.Child c d := ⟨facts, found, List.mem_reverse.mp member⟩
      have lower := Handle.height_lt_of_path acyclic (index_lt_of_hasCursor ⟨facts, found⟩)
        (.single child)
      exact ih (fun e path => known e (.head child path)) (by omega)
    obtain ⟨parts, walked⟩ := exists_mapM each
    refine ⟨c :: parts.flatten, ?_⟩
    rw [fromRightWithin, cursor, found]
    show (facts.children.reverse.mapM (fe.fromRightWithin limit) >>= _) = _
    rw [walked]
    rfl

theorem exists_fromRight (acyclic : ∀ c, ¬ Relation.TransGen fe.Child c c)
    (known : ∀ d, Relation.ReflTransGen fe.Child c d → fe.HasCursor d) :
    ∃ order, fe.fromRight c = .ok order :=
  exists_fromRightWithin acyclic known (Nat.lt_succ_of_le Handle.height_le)

/-! ### Source order -/

theorem exists_sourceOrder (post : fe.PostOrder cs order) : ∃ order, fe.SourceOrder cs order := by
  induction post with
  | nil => exact ⟨[], .nil⟩
  | cons known children rest ihBelow ihAfter =>
    obtain ⟨below, children'⟩ := ihBelow
    obtain ⟨after, rest'⟩ := ihAfter
    exact ⟨_, .cons known children' rest'⟩

theorem exists_orderBelow (acyclic : ∀ c, ¬ Relation.TransGen fe.Child c c)
    (known : ∀ d, Relation.ReflTransGen fe.Child c d → fe.HasCursor d) :
    ∃ order, fe.OrderBelow c order := by
  obtain ⟨walk, walked⟩ := exists_fromRight acyclic known
  obtain ⟨order, sorted⟩ := exists_sourceOrder (postOrder_of_fromRight walked)
  cases sorted with
  | cons known children rest => exact ⟨_, _, known, children⟩

end CxxTrees.Frontend
