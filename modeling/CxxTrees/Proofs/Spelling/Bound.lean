import CxxTrees.Proofs.Spelling.Ends
import CxxTrees.Spelling.Bound

/-!
# Written bounds

An array is written as a base with one bound in brackets for each dimension. Read
backwards, a bound ends at its own opening bracket if the brackets inside of it
are balanced, so that the last bound read is the first one written.
-/

namespace CxxTrees.Spelling
open Text
variable {s acc rest base : List Char} {bounds : List (List Char)}

/-- Whether every bracket in a text has a partner, with `depth` of them open before it. -/
def closes (depth : Nat) : List Char → Bool
  | [] => depth == 0
  | c :: s =>
    if c = '[' then closes (depth + 1) s
    else if c = ']' then depth != 0 && closes (depth - 1) s
    else closes depth s

/-- One pair of brackets for each bound. -/
def bracketed (bounds : List (List Char)) : List Char := bounds.flatMap fun b => '[' :: (b ++ [']'])

/-- Read backwards, a text closes in front what it opens behind. -/
theorem scanBound_closes {depth : Nat} (closed : closes depth s = true) (outer : Nat) :
    scanBound (some outer) acc (s.reverse ++ rest) =
      scanBound (some (outer + depth)) (s ++ acc) rest := by
  induction s generalizing depth rest with
  | nil =>
    have same : depth = 0 := by simpa [closes] using closed
    subst same
    rfl
  | cons c s ih =>
    rw [List.reverse_cons, List.append_assoc, List.singleton_append]
    unfold closes at closed
    by_cases opening : c = '['
    · subst opening
      rw [if_pos rfl] at closed
      rw [ih closed, ← Nat.add_assoc]
      simp [scanBound]
    · rw [if_neg opening] at closed
      by_cases closing : c = ']'
      · subst closing
        simp only [if_pos, Bool.and_eq_true, bne_iff_ne] at closed
        obtain ⟨inside, rfl⟩ : ∃ inside, depth = inside + 1 := ⟨depth - 1, by omega⟩
        rw [ih closed.2, Nat.add_sub_cancel]
        cases sum : outer + inside with
        | zero =>
          obtain ⟨rfl, rfl⟩ : outer = 0 ∧ inside = 0 := by omega
          simp [scanBound]
        | succ n =>
          have deeper : outer + (inside + 1) = n + 2 := by omega
          simp [scanBound, deeper]
      · rw [if_neg closing] at closed
        rw [ih closed]
        cases outer + depth <;> simp [scanBound, opening, closing]

theorem scanBound_bracketed (closed : ∀ b ∈ bounds, closes 0 b = true) :
    scanBound none acc ((bracketed bounds).reverse ++ rest) =
      scanBound none (bounds.head?.getD acc) rest := by
  induction bounds generalizing rest with
  | nil => rfl
  | cons b bounds ih =>
    have inner := fun b' member => closed b' (List.mem_cons_of_mem b member)
    have split : (bracketed (b :: bounds)).reverse ++ rest =
        (bracketed bounds).reverse ++ (']' :: (b.reverse ++ '[' :: rest)) := by
      simp [bracketed]
    rw [split, ih inner, scanBound, if_pos rfl,
      scanBound_closes (closed b List.mem_cons_self) 0]
    simp [scanBound]

theorem scanBound_base (apart : base.getLast? ≠ some ']') :
    scanBound none acc base.reverse = some acc := by
  cases reversed : base.reverse with
  | nil => rfl
  | cons c rest =>
    have last : base.getLast? = some c := by
      rw [← List.head?_reverse, reversed, List.head?_cons]
    have other : c ≠ ']' := fun same => apart (same ▸ last)
    rw [scanBound, if_neg other]

theorem length_le_byteLength (s : List Char) : s.length ≤ byteLength s := by
  induction s with
  | nil => exact Nat.le_refl 0
  | cons c s ih =>
    have := c.utf8Size_pos
    rw [List.length_cons, byteLength]
    omega

end CxxTrees.Spelling

namespace CxxTrees

/-! ### Array spellings -/

/-- The text of an array: what is left of it without bounds, and a bound for each dimension,
the first perhaps empty. Without a first bound the rest is more than blanks. -/
structure BoundsText where
  base : List Char
  first : List Char
  more : List (List Char)
  apart : base.getLast? ≠ some ']'
  closed : ∀ b ∈ first :: more, Spelling.closes 0 b = true
  visible : first ≠ [] ∨ Text.trimStart base ≠ []

namespace BoundsText
open Text Spelling
variable (array : BoundsText)

def text : List Char := array.base ++ bracketed (array.first :: array.more)

theorem bracketed_ends (first : List Char) (more : List (List Char)) :
    ∃ inner, bracketed (first :: more) = '[' :: (inner ++ [']']) ∧ first.length ≤ inner.length := by
  induction more generalizing first with
  | nil => exact ⟨first, by simp [bracketed], Nat.le_refl _⟩
  | cons second more ih =>
    obtain ⟨inner, same, _⟩ := ih second
    refine ⟨first ++ ']' :: '[' :: inner, ?_, by simp⟩
    rw [bracketed, List.flatMap_cons, ← bracketed, same]
    simp

theorem trim_text :
    trim array.text = trimStart array.base ++ bracketed (array.first :: array.more) := by
  obtain ⟨inner, same, _⟩ := bracketed_ends array.first array.more
  have front : trimStart array.text =
      trimStart array.base ++ bracketed (array.first :: array.more) := by
    unfold text trimStart
    rw [List.dropWhile_append]
    split
    · rename_i blank
      have nothing : array.base.dropWhile isBlank = [] := by simpa using blank
      rw [nothing, List.nil_append, same]
      rfl
    · rfl
  rw [trim, front]
  apply trimEnd_of_last
  rw [same, ← List.cons_append, ← List.append_assoc, List.getLast?_concat]
  decide

theorem byteLength_text : 2 < byteLength (trim array.text) := by
  obtain ⟨inner, same, longer⟩ := bracketed_ends array.first array.more
  have long : 2 < (trim array.text).length := by
    rw [trim_text, same]
    simp only [List.length_append, List.length_cons, List.length_nil]
    rcases array.visible with filled | visible
    · have := List.length_pos_iff.mpr filled
      omega
    · have := List.length_pos_iff.mpr visible
      omega
  have := length_le_byteLength (trim array.text)
  omega

theorem getLast?_text : (trim array.text).getLast? = some ']' := by
  obtain ⟨inner, same, _⟩ := bracketed_ends array.first array.more
  rw [trim_text, same, ← List.cons_append, ← List.append_assoc, List.getLast?_concat]

theorem apart_trimStart : (trimStart array.base).getLast? ≠ some ']' := by
  intro ends
  obtain ⟨blanks, same⟩ := trimStart_suffix array.base
  apply array.apart
  rw [← same, List.getLast?_append, ends, Option.some_or]

theorem boundOf_text : boundOf array.text = .ok array.first := by
  have long := array.byteLength_text
  have ends := array.getLast?_text
  have scanned : scanBound none [] (trim array.text).reverse = some array.first := by
    rw [trim_text, List.reverse_append, scanBound_bracketed array.closed, List.head?_cons,
      Option.getD_some]
    exact scanBound_base array.apart_trimStart
  have read : firstBound array.text = .ok array.first := by
    unfold firstBound
    rw [if_neg (not_or.mpr ⟨by omega, not_not_intro ends⟩), scanned]
  rw [boundOf, read]

end BoundsText

end CxxTrees
