import CxxTrees.Frontend.Basic

/-!
# Source order

The cursors at and below a list of cursors, each before its children: the order
in which a body is read. A list has at most one such order, and none where the
children run in a circle.
-/

namespace CxxTrees.Frontend
variable {fe : Frontend} {c : Cursor} {facts : CursorFacts}

inductive SourceOrder (fe : Frontend) : List Cursor → List Cursor → Prop where
  | nil : SourceOrder fe [] []
  | cons {c : Cursor} {facts : CursorFacts} {cs below after : List Cursor}
      (known : fe.cursor? c = some facts) (children : SourceOrder fe facts.children below)
      (rest : SourceOrder fe cs after) : SourceOrder fe (c :: cs) (c :: below ++ after)

theorem sourceOrder_unique {cs order other : List Cursor} (first : fe.SourceOrder cs order)
    (second : fe.SourceOrder cs other) : order = other := by
  induction first generalizing other with
  | nil =>
    cases second
    rfl
  | cons known children rest ihBelow ihAfter =>
    cases second with
    | cons known' children' rest' =>
      obtain rfl := Option.mem_unique known known'
      rw [ihBelow children', ihAfter rest']

theorem sourceOrder_append {cs cs' order order' : List Cursor} (first : fe.SourceOrder cs order)
    (second : fe.SourceOrder cs' order') : fe.SourceOrder (cs ++ cs') (order ++ order') := by
  induction first with
  | nil => exact second
  | cons known children rest _ ih =>
    rw [List.append_assoc]
    exact .cons known children ih

/-- `order` lists the cursors below `c`, without `c` itself. -/
def OrderBelow (fe : Frontend) (c : Cursor) (order : List Cursor) : Prop :=
  ∃ facts, fe.cursor? c = some facts ∧ fe.SourceOrder facts.children order

theorem orderBelow_unique {order other : List Cursor} (first : fe.OrderBelow c order)
    (second : fe.OrderBelow c other) : order = other := by
  obtain ⟨facts, known, below⟩ := first
  obtain ⟨facts', known', below'⟩ := second
  obtain rfl := Option.mem_unique known known'
  exact sourceOrder_unique below below'

end CxxTrees.Frontend
