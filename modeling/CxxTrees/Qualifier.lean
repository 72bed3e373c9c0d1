/-!
# Qualifiers

The set of cv-qualifiers of a type, and the two kinds of references.
-/

namespace CxxTrees

structure Cv where
  isConst : Bool := false
  isVolatile : Bool := false
deriving DecidableEq

namespace Cv

def none : Cv := {}

def isEmpty (cv : Cv) : Bool := !cv.isConst && !cv.isVolatile

/-- Qualifiers found in two places of one spelling. -/
def union (a b : Cv) : Cv where
  isConst := a.isConst || b.isConst
  isVolatile := a.isVolatile || b.isVolatile

theorem isEmpty_iff (cv : Cv) : cv.isEmpty = true ↔ cv = none := by
  rcases cv with ⟨_ | _, _ | _⟩ <;> decide

theorem none_union (a : Cv) : none.union a = a := by
  simp [union, none]

end Cv

/-- `&` or `&&`. -/
inductive RefKind where
  | lvalue | rvalue
deriving DecidableEq

end CxxTrees
