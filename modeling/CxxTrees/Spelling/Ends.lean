import CxxTrees.Text.Blank
import CxxTrees.Text.Word

/-!
# The ends of a spelling

Taking a given text off the front or the back of a spelling, together with the
blanks it leaves there. A keyword comes off only as a whole word.
-/

namespace CxxTrees.Spelling
open Text

/-- The rest of `s` behind `text`, if it starts with that. -/
def behind? : (text s : List Char) → Option (List Char)
  | [], s => some s
  | _ :: _, [] => none
  | a :: text, c :: s => if a = c then behind? text s else none

/-- The rest of `s` before `text`, if it ends with that. -/
def before? (text s : List Char) : Option (List Char) :=
  (behind? text.reverse s.reverse).map List.reverse

theorem behind?_eq_some {text s rest : List Char} :
    behind? text s = some rest ↔ s = text ++ rest := by
  induction text generalizing s with
  | nil => simp [behind?]
  | cons a text ih =>
    cases s with
    | nil => simp [behind?]
    | cons c s =>
      by_cases h : a = c
      · simp [behind?, h, ih]
      · simp [behind?, h, Ne.symm h]

theorem before?_eq_some {text s rest : List Char} :
    before? text s = some rest ↔ s = rest ++ text := by
  simp only [before?, Option.map_eq_some_iff, behind?_eq_some]
  constructor
  · rintro ⟨front, h, rfl⟩
    simpa using congrArg List.reverse h
  · rintro rfl
    exact ⟨rest.reverse, by simp, by simp⟩

/-- What `text` leaves of `s`, which starts with it. As a `word`, `text` must
not run on into an ASCII word character. -/
def takeFront (text : List Char) (word : Bool) (s : List Char) : Option (List Char) :=
  match behind? text s with
  | none => none
  | some rest => if word && rest.head?.any isAsciiWordChar then none else some (trimStart rest)

/-- What `text` leaves of `s`, which ends with it; see `takeFront`. -/
def takeBack (text : List Char) (word : Bool) (s : List Char) : Option (List Char) :=
  match before? text s with
  | none => none
  | some rest => if word && rest.getLast?.any isAsciiWordChar then none else some (trimEnd rest)

end CxxTrees.Spelling
