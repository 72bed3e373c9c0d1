import Mathlib.Data.Finset.Card
import Mathlib.Logic.Relation
import CxxTrees.Frontend.Basic

/-!
# Links between entries

What the facts of an entry refer to, and two things that can be asked of the links of
a frontend: that none leaves its tables, and that none of those that are followed
inwards, downwards or outwards runs in a circle. A descent along links that run in no
circle is bounded by the `height` of the handle it begins at, and this by the length
of the table.
-/

namespace CxxTrees

/-- The facts of a cursor refer to another one. -/
inductive CursorFacts.Names (facts : CursorFacts) (c : Cursor) : Prop where
  | parent (link : facts.semanticParent = some c)
  | referenced (link : facts.referenced = some c)
  | template (link : facts.specializedTemplate = some c)
  | child (link : c ∈ facts.children)

/-- The facts of a type have another one as a part. -/
inductive TypeFacts.HasPart (facts : TypeFacts) (t : TypeHandle) : Prop where
  | pointee (link : facts.pointee = some t)
  | element (link : facts.element = some t)
  | result (link : facts.result = some t)
  | parameter (i : Nat) (link : facts.parameter i = some t)
  | ofClass (link : facts.ofClass = some t)
  | argument (i : Nat) (link : facts.argument i = some t)

/-- Links along which a number grows run in no circle. -/
theorem no_circle {link : α → α → Prop} (rank : α → Nat)
    (grows : ∀ a b, link a b → rank a < rank b) (a : α) : ¬ Relation.TransGen link a a := by
  have larger {b : α} (path : Relation.TransGen link a b) : rank a < rank b := by
    induction path with
    | single step => exact grows _ _ step
    | tail _ step ih => exact ih.trans (grows _ _ step)
  intro circle
  exact (larger circle).false

namespace Frontend

def HasCursor (fe : Frontend) (c : Cursor) : Prop := ∃ facts, fe.cursor? c = some facts

def HasType (fe : Frontend) (t : TypeHandle) : Prop := ∃ facts, fe.type? t = some facts

/-- No link leaves the tables. -/
structure Closed (fe : Frontend) : Prop where
  named : ∀ {c d facts}, fe.cursor? c = some facts → facts.Names d → fe.HasCursor d
  typed : ∀ {c t facts}, fe.cursor? c = some facts → facts.type = some t → fe.HasType t
  part : ∀ {t u facts}, fe.type? t = some facts → facts.HasPart u → fe.HasType u
  canonical : ∀ {t facts}, fe.type? t = some facts → fe.HasType facts.canonical
  declaration : ∀ {t c facts}, fe.type? t = some facts → facts.declaration = some c →
    fe.HasCursor c

/-- The type `u` is a part of `t`, or it is its canonical form and another type. -/
def Inner (fe : Frontend) (t u : TypeHandle) : Prop :=
  ∃ facts, fe.type? t = some facts ∧ (facts.HasPart u ∨ facts.canonical = u ∧ u ≠ t)

def Child (fe : Frontend) (c d : Cursor) : Prop :=
  ∃ facts, fe.cursor? c = some facts ∧ d ∈ facts.children

def Parent (fe : Frontend) (c d : Cursor) : Prop :=
  ∃ facts, fe.cursor? c = some facts ∧ facts.semanticParent = some d

/-- Types are made of types of a lower rank, and neither children nor semantic parents
lead back to where they began. Nothing is asked of the other links. -/
structure Acyclic (fe : Frontend) : Prop where
  types : ∃ rank : TypeHandle → Nat, ∀ t u, fe.Inner t u → rank u < rank t
  children : ∀ c, ¬ Relation.TransGen fe.Child c c
  parents : ∀ c, ¬ Relation.TransGen fe.Parent c c

variable {fe : Frontend}

theorem Acyclic.inner (acyclic : fe.Acyclic) (t : TypeHandle) :
    ¬ Relation.TransGen fe.Inner t t := by
  obtain ⟨rank, lower⟩ := acyclic.types
  intro circle
  exact no_circle rank (fun u v link => lower v u link) t (Relation.transGen_swap.mpr circle)

theorem index_lt_of_hasCursor {c : Cursor} (known : fe.HasCursor c) :
    c.index < fe.cursorCount := by
  obtain ⟨facts, known⟩ := known
  by_contra outside
  rw [fe.cursor?_eq_none c (Nat.le_of_not_lt outside)] at known
  cases known

theorem index_lt_of_hasType {t : TypeHandle} (known : fe.HasType t) : t.index < fe.typeCount := by
  obtain ⟨facts, known⟩ := known
  by_contra outside
  rw [fe.type?_eq_none t (Nat.le_of_not_lt outside)] at known
  cases known

end Frontend

/-! ### Heights -/

namespace Handle
variable {table : Table} {link : Handle table → Handle table → Prop} {count : Nat}
  {a b : Handle table}

theorem ext_index (h : a.index = b.index) : a = b := by
  apply ext_number
  have := a.positive
  have := b.positive
  unfold index at h
  omega

open Classical in
/-- Where links lead to from `a`, itself included, among the first `count` entries. -/
noncomputable def reach (link : Handle table → Handle table → Prop) (count : Nat)
    (a : Handle table) : Finset Nat :=
  (Finset.range count).filter fun i =>
    ∃ b : Handle table, b.index = i ∧ Relation.ReflTransGen link a b

theorem mem_reach {i : Nat} : i ∈ reach link count a ↔
    i < count ∧ ∃ b : Handle table, b.index = i ∧ Relation.ReflTransGen link a b := by
  simp only [reach, Finset.mem_filter, Finset.mem_range]

theorem reach_subset (path : Relation.ReflTransGen link a b) :
    reach link count b ⊆ reach link count a := by
  intro i reached
  obtain ⟨inside, c, index, rest⟩ := mem_reach.mp reached
  exact mem_reach.mpr ⟨inside, c, index, path.trans rest⟩

noncomputable def height (link : Handle table → Handle table → Prop) (count : Nat)
    (a : Handle table) : Nat := (reach link count a).card

theorem height_le : height link count a ≤ count := by
  have most : reach link count a ⊆ Finset.range count := by
    intro i reached
    exact Finset.mem_range.mpr (mem_reach.mp reached).1
  simpa only [height, Finset.card_range] using Finset.card_le_card most

theorem height_pos (inside : a.index < count) : 0 < height link count a :=
  Finset.card_pos.mpr ⟨a.index, mem_reach.mpr ⟨inside, a, rfl, .refl⟩⟩

theorem height_le_of_path (path : Relation.ReflTransGen link a b) :
    height link count b ≤ height link count a := Finset.card_le_card (reach_subset path)

/-- The height falls along links, since the handle they begin at is reached no more. -/
theorem height_lt_of_path (acyclic : ∀ c, ¬ Relation.TransGen link c c)
    (inside : a.index < count) (path : Relation.TransGen link a b) :
    height link count b < height link count a := by
  have subset : reach link count b ⊆ reach link count a := reach_subset path.to_reflTransGen
  refine Finset.card_lt_card ((Finset.ssubset_iff_of_subset subset).mpr ⟨a.index, ?_, ?_⟩)
  · exact mem_reach.mpr ⟨inside, a, rfl, .refl⟩
  · intro reached
    obtain ⟨_, c, index, rest⟩ := mem_reach.mp reached
    obtain rfl := ext_index index
    exact acyclic c (path.trans_left rest)

end Handle

end CxxTrees
