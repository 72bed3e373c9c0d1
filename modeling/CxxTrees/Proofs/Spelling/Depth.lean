import Mathlib.Data.List.Induction
import CxxTrees.Proofs.Text.Trimmed
import CxxTrees.Spelling.Arguments

/-!
# Open brackets

How many brackets a text opens and does not close, counted with numbers that may fall
below zero. The counts that an argument list is read with stop at zero instead; both
agree on a text that closes no bracket before it is opened (`foldl_step`).
-/

namespace CxxTrees.Spelling
open Text
variable {s : List Char} {c : Char} {d : Nesting}

/-! ### Counts -/

def isOpening (c : Char) : Bool := c == '(' || c == '\x7b' || c == '['

def isClosing (c : Char) : Bool := c == ')' || c == '\x7d' || c == ']'

/-- The brackets that `s` opens and does not close, whichever their shape. -/
def bracketDepth (s : List Char) : Int := s.countP isOpening - s.countP isClosing

/-- What stands outside of all brackets, if there are `depth` of them open in front. -/
def outside (depth : Int) : List Char → List Char
  | [] => []
  | c :: s =>
    if isOpening c then outside (depth + 1) s
    else if isClosing c then outside (depth - 1) s
    else if depth = 0 then c :: outside depth s
    else outside depth s

/-- The angle brackets that `s` opens and does not close outside of all others, if there are
`depth` of those open in front. -/
def angleDepth (depth : Int) (s : List Char) : Int :=
  (outside depth s).count '<' - (outside depth s).count '>'

theorem isOpening_iff : isOpening c = true ↔ c = '(' ∨ c = '\x7b' ∨ c = '[' := by
  simp [isOpening, or_assoc]

theorem isClosing_iff : isClosing c = true ↔ c = ')' ∨ c = '\x7d' ∨ c = ']' := by
  simp [isClosing, or_assoc]

theorem isClosing_of_isOpening (opening : isOpening c = true) : isClosing c = false := by
  rcases isOpening_iff.mp opening with rfl | rfl | rfl <;> rfl

theorem bracketDepth_opening (opening : isOpening c = true) : bracketDepth [c] = 1 := by
  simp [bracketDepth, opening, isClosing_of_isOpening opening]

theorem bracketDepth_closing (opening : isOpening c = false) (closing : isClosing c = true) :
    bracketDepth [c] = -1 := by
  simp [bracketDepth, opening, closing]

theorem bracketDepth_other (opening : isOpening c = false) (closing : isClosing c = false) :
    bracketDepth [c] = 0 := by
  simp [bracketDepth, opening, closing]

theorem bracketDepth_append (s t : List Char) :
    bracketDepth (s ++ t) = bracketDepth s + bracketDepth t := by
  simp only [bracketDepth, List.countP_append]
  omega

theorem outside_append (depth : Int) (s t : List Char) :
    outside depth (s ++ t) = outside depth s ++ outside (depth + bracketDepth s) t := by
  induction s generalizing depth with
  | nil => simp [outside, bracketDepth]
  | cons c s ih =>
    have first : depth + bracketDepth (c :: s) = depth + bracketDepth [c] + bracketDepth s := by
      rw [← List.singleton_append, bracketDepth_append, ← Int.add_assoc]
    rw [List.cons_append, outside, outside, first]
    cases opening : isOpening c with
    | true => rw [if_pos rfl, if_pos rfl, ih, bracketDepth_opening opening]
    | false =>
      cases closing : isClosing c with
      | true => simp [ih, bracketDepth_closing opening closing, Int.sub_eq_add_neg]
      | false =>
        rw [bracketDepth_other opening closing, Int.add_zero]
        by_cases top : depth = 0 <;> simp [top, ih]

theorem angleDepth_append (depth : Int) (s t : List Char) :
    angleDepth depth (s ++ t) = angleDepth depth s + angleDepth (depth + bracketDepth s) t := by
  simp only [angleDepth, outside_append, List.count_append]
  omega

/-! ### The nesting that is read -/

theorem step_opening (opening : isOpening c = true) :
    d.step c = { d with brackets := d.brackets + 1 } := if_pos (isOpening_iff.mp opening)

theorem step_closing (opening : isOpening c = false) (closing : isClosing c = true) :
    d.step c = { d with brackets := d.brackets - 1 } := by
  unfold Nesting.step
  rw [if_neg (mt isOpening_iff.mpr (by simp [opening])), if_pos (isClosing_iff.mp closing)]

theorem step_other (opening : isOpening c = false) (closing : isClosing c = false) :
    d.step c = if d.brackets ≠ 0 then d
      else if c = '<' then { d with angles := d.angles + 1 }
      else if c = '>' then { d with angles := d.angles - 1 }
      else d := by
  unfold Nesting.step
  rw [if_neg (mt isOpening_iff.mpr (by simp [opening])),
    if_neg (mt isClosing_iff.mpr (by simp [closing]))]

/-- Behind one more character the counts are those that are read, unless they fall below zero. -/
theorem step_counts {brackets angles : Int} (open_ : 0 ≤ brackets ∧ 0 ≤ angles)
    (open' : 0 ≤ brackets + bracketDepth [c] ∧ 0 ≤ angles + angleDepth brackets [c]) :
    Nesting.step ⟨brackets.toNat, angles.toNat⟩ c =
      ⟨(brackets + bracketDepth [c]).toNat, (angles + angleDepth brackets [c]).toNat⟩ := by
  cases opening : isOpening c with
  | true =>
    have angle : angleDepth brackets [c] = 0 := by simp [angleDepth, outside, opening]
    rw [step_opening opening, bracketDepth_opening opening, angle]
    simp only [Nesting.mk.injEq]
    omega
  | false =>
    cases closing : isClosing c with
    | true =>
      have angle : angleDepth brackets [c] = 0 := by simp [angleDepth, outside, opening, closing]
      rw [bracketDepth_closing opening closing] at open'
      rw [step_closing opening closing, bracketDepth_closing opening closing, angle]
      simp only [Nesting.mk.injEq]
      omega
    | false =>
      rw [step_other opening closing, bracketDepth_other opening closing]
      by_cases top : brackets = 0
      · subst top
        by_cases up : c = '<'
        · subst up
          have angle : angleDepth 0 ['<'] = 1 := by decide
          simp [angle]
          omega
        · by_cases down : c = '>'
          · subst down
            have angle : angleDepth 0 ['>'] = -1 := by decide
            simp [angle]
            omega
          · have angle : angleDepth 0 [c] = 0 := by
              simp [angleDepth, outside, opening, closing, up, down]
            simp [up, down, angle]
      · have angle : angleDepth brackets [c] = 0 := by
          simp [angleDepth, outside, opening, closing, top]
        rw [if_pos (by dsimp only; omega), angle, Int.add_zero, Int.add_zero]

/-- A text that closes nothing before it is opened is read with the counts of what it opens, on
top of the angle brackets that are open in front of it. -/
theorem foldl_step (angles : Nat)
    (nested : ∀ front, front <+: s → 0 ≤ bracketDepth front ∧ 0 ≤ angleDepth 0 front) :
    s.foldl Nesting.step ⟨0, angles⟩ =
      ⟨(bracketDepth s).toNat, (angles + angleDepth 0 s).toNat⟩ := by
  induction s using List.reverseRecOn with
  | nil => simp [bracketDepth, angleDepth, outside]
  | append_singleton s c ih =>
    have front := nested s (List.prefix_append s [c])
    have whole := nested (s ++ [c]) List.prefix_rfl
    rw [bracketDepth_append, angleDepth_append, Int.zero_add] at whole ⊢
    rw [List.foldl_append, ih fun front part => nested front (part.trans (List.prefix_append s [c])),
      List.foldl_cons, List.foldl_nil, ← Int.add_assoc]
    exact step_counts ⟨front.1, by omega⟩ ⟨whole.1, by omega⟩

theorem step_blank (blank : isBlank c = true) : d.step c = d := by
  have opening : isOpening c = false := by
    rw [Bool.eq_false_iff, ne_eq, isOpening_iff]
    rintro (rfl | rfl | rfl) <;> cases blank
  have closing : isClosing c = false := by
    rw [Bool.eq_false_iff, ne_eq, isClosing_iff]
    rintro (rfl | rfl | rfl) <;> cases blank
  rw [step_other opening closing, if_neg (ne_of_isBlank blank rfl : c ≠ '<'),
    if_neg (ne_of_isBlank blank rfl : c ≠ '>'), ite_self]

theorem foldl_step_blanks {gap : List Char} (blank : gap.all isBlank = true) :
    gap.foldl Nesting.step d = d := by
  induction gap with
  | nil => rfl
  | cons c gap ih =>
    obtain ⟨first, rest⟩ : isBlank c = true ∧ gap.all isBlank = true := by simpa using blank
    rw [List.foldl_cons, step_blank first, ih rest]

end CxxTrees.Spelling
