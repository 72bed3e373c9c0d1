/-!
# Ranges of code points

A character class of the Unicode standard is a list of inclusive ranges in
increasing order; `Ranges.contains` looks a code point up in one.
-/

namespace CxxTrees.Text

/-- Inclusive ranges of code points, in increasing order. -/
abbrev Ranges := List (Nat × Nat)

/-- Looks `code` up, and stops at the first range that starts behind it. -/
def Ranges.contains : Ranges → Nat → Bool
  | [], _ => false
  | (first, last) :: rest, code =>
    decide (first ≤ code) && (decide (code ≤ last) || Ranges.contains rest code)

theorem Ranges.contains_cons (first last code : Nat) (rest : Ranges) :
    Ranges.contains ((first, last) :: rest) code = true ↔
      first ≤ code ∧ (code ≤ last ∨ Ranges.contains rest code = true) := by
  simp [Ranges.contains]

end CxxTrees.Text
