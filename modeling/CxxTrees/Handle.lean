/-!
# Handles

A frontend speaks of its cursors and types through numbers. Each of the two
tables numbers its entries from 1 in 32 bits, and no handle stands for nothing.
-/

namespace CxxTrees

/-- The tables of a frontend. -/
inductive Table where
  | cursors | types
deriving DecidableEq

structure Handle (table : Table) where
  number : Nat
  positive : 0 < number
  fits : number < UInt32.size
deriving DecidableEq

abbrev Cursor := Handle .cursors

abbrev TypeHandle := Handle .types

namespace Handle
variable {table : Table}

theorem ext_number {a b : Handle table} (h : a.number = b.number) : a = b := by
  cases a; cases b; subst h; rfl

def ofNumber? (n : Nat) : Option (Handle table) :=
  if h : 0 < n ∧ n < UInt32.size then some ⟨n, h.1, h.2⟩ else none

/-- The handle of the entry that follows `count` others. The count wraps at 32
bits, and the last handle is given out again and again. -/
def afterCount (count : Nat) : Handle table where
  number := min (count % UInt32.size) (UInt32.size - 2) + 1
  positive := Nat.succ_pos _
  fits := by simp only [UInt32.size]; omega

/-- The place of the entry in its table, from 0. -/
def index (h : Handle table) : Nat := h.number - 1

def display (h : Handle table) : String :=
  match table with
  | .cursors => "Cursor(" ++ toString h.number ++ ")"
  | .types => "TypeHandle(" ++ toString h.number ++ ")"

theorem ofNumber?_eq_some {n : Nat} {h : Handle table} :
    ofNumber? n = some h ↔ h.number = n := by
  unfold ofNumber?
  split
  · rename_i hn
    simp only [Option.some.injEq]
    exact ⟨fun e => e ▸ rfl, fun e => ext_number e.symm⟩
  · rename_i hn
    have := h.positive
    have := h.fits
    simp only [reduceCtorEq, false_iff]
    omega

theorem number_afterCount {count : Nat} (h : count + 1 < UInt32.size) :
    (afterCount count : Handle table).number = count + 1 := by
  simp only [UInt32.size, afterCount] at h ⊢
  omega

theorem index_afterCount {count : Nat} (h : count + 1 < UInt32.size) :
    (afterCount count : Handle table).index = count := by
  rw [index, number_afterCount h, Nat.add_sub_cancel]

theorem afterCount_index (h : Handle table) : afterCount h.index = h := by
  have := h.positive
  have := h.fits
  apply ext_number
  simp only [index, afterCount, UInt32.size] at *
  omega

end Handle

end CxxTrees
