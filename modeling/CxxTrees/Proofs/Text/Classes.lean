import CxxTrees.Text.Blank
import CxxTrees.Text.Word

/-!
# Classes of characters

Which of the classes that a text is cut by exclude each other: no letter stands
before `A`, digits go on with words but start none, and blanks do neither.
-/

namespace CxxTrees.Text
variable {c : Char}

/-! ### Letters and digits -/

theorem le_toNat_of_isAlphabetic (letter : isAlphabetic c = true) :
    'A'.toNat ≤ c.toNat := (Ranges.contains_cons _ _ _ _).mp letter |>.1

theorem isIdentifierStart_of_lt (small : c.toNat < 'A'.toNat) :
    isIdentifierStart c = false := by
  rw [Bool.eq_false_iff]
  intro start
  rcases Bool.or_eq_true_iff.mp start with letter | underscore
  · have := le_toNat_of_isAlphabetic letter
    omega
  · rw [eq_of_beq underscore] at small
    exact absurd small (by decide)

theorem toNat_lt_of_isDigit (digit : c.isDigit = true) : c.toNat < 'A'.toNat := by
  simp only [Char.isDigit, Bool.and_eq_true, decide_eq_true_eq, UInt32.le_iff_toNat_le] at digit
  have : c.toNat ≤ 57 := digit.2
  simp only [Char.reduceToNat]
  omega

theorem isIdentifierChar_of_isDigit (digit : c.isDigit = true) : isIdentifierChar c = true := by
  have numeric : isNumeric c = true := by
    simp only [Char.isDigit, Bool.and_eq_true, decide_eq_true_eq, UInt32.le_iff_toNat_le] at digit
    exact (Ranges.contains_cons _ _ _ _).mpr ⟨digit.1, .inl digit.2⟩
  simp [isIdentifierChar, numeric]

/-! ### Blanks -/

/-- The code points of blanks. -/
def blankCodes : List Nat :=
  [0x9, 0xA, 0xB, 0xC, 0xD, 0x20, 0x85, 0xA0, 0x1680, 0x2000, 0x2001, 0x2002, 0x2003, 0x2004,
    0x2005, 0x2006, 0x2007, 0x2008, 0x2009, 0x200A, 0x2028, 0x2029, 0x202F, 0x205F, 0x3000]

theorem mem_blankCodes (blank : isBlank c = true) : c.toNat ∈ blankCodes := by
  simp only [isBlank, blankRanges, Ranges.contains_cons] at blank
  simp only [Ranges.contains, Bool.false_eq_true, or_false] at blank
  simp only [blankCodes, List.mem_cons, List.not_mem_nil, or_false]
  omega

theorem isIdentifierChar_of_isBlank (blank : isBlank c = true) : isIdentifierChar c = false := by
  have outside : ∀ n ∈ blankCodes, alphabeticRanges.contains n = false ∧
      numericRanges.contains n = false ∧ n ≠ '_'.toNat := by decide +kernel
  obtain ⟨letter, numeric, underscore⟩ := outside _ (mem_blankCodes blank)
  have other : c ≠ '_' := fun same => underscore (same ▸ rfl)
  simp [isIdentifierChar, isAlphabetic, isNumeric, letter, numeric, other]

theorem isAsciiWordChar_of_isBlank (blank : isBlank c = true) : isAsciiWordChar c = false := by
  have outside : ∀ n ∈ blankCodes, isAsciiWordChar (Char.ofNat n) = false := by decide
  rw [← Char.ofNat_toNat c]
  exact outside _ (mem_blankCodes blank)

theorem ne_of_isBlank {b : Char} (blank : isBlank c = true) (visible : isBlank b = false) :
    c ≠ b := by
  rintro rfl
  rw [blank] at visible
  cases visible

end CxxTrees.Text
