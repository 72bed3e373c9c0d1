import CxxTrees.Proofs.Text.Trimmed
import CxxTrees.Spelling.Ends

/-!
# Words at the ends of a text

A keyword comes off an end of a text exactly where the text starts or ends with
it as a word of its own.
-/

namespace CxxTrees.Spelling
open Text
variable {word s rest gap : List Char}

/-! ### Words -/

/-- `s` starts with `word`, and goes on with something else than a word character. -/
def StartsWith (word s : List Char) : Prop :=
  ∃ rest, s = word ++ rest ∧ rest.head?.any isAsciiWordChar = false

/-- `s` ends with `word`, which follows something else than a word character. -/
def EndsWith (word s : List Char) : Prop :=
  ∃ rest, s = rest ++ word ∧ rest.getLast?.any isAsciiWordChar = false

theorem takeFront_word (apart : rest.head?.any isAsciiWordChar = false) :
    takeFront word true (word ++ rest) = some (trimStart rest) := by
  simp [takeFront, behind?_eq_some.mpr rfl, apart]

theorem takeFront_eq_none (absent : ¬ StartsWith word s) : takeFront word true s = none := by
  unfold takeFront
  cases found : behind? word s with
  | none => rfl
  | some rest =>
    simp only [Bool.true_and]
    split
    · rfl
    · rename_i apart
      exact absurd ⟨rest, behind?_eq_some.mp found, by simpa using apart⟩ absent

theorem isSome_takeFront : (takeFront word true s).isSome = true ↔ StartsWith word s := by
  constructor
  · intro taken
    by_cases starts : StartsWith word s
    · exact starts
    · rw [takeFront_eq_none starts] at taken
      cases taken
  · rintro ⟨rest, rfl, apart⟩
    rw [takeFront_word apart]
    rfl

theorem takeBack_word (apart : rest.getLast?.any isAsciiWordChar = false) :
    takeBack word true (rest ++ word) = some (trimEnd rest) := by
  simp [takeBack, before?_eq_some.mpr rfl, apart]

theorem takeBack_eq_none (absent : ¬ EndsWith word s) : takeBack word true s = none := by
  unfold takeBack
  cases found : before? word s with
  | none => rfl
  | some rest =>
    simp only [Bool.true_and]
    split
    · rfl
    · rename_i apart
      exact absurd ⟨rest, before?_eq_some.mp found, by simpa using apart⟩ absent

theorem isSome_takeBack : (takeBack word true s).isSome = true ↔ EndsWith word s := by
  constructor
  · intro taken
    by_cases ends : EndsWith word s
    · exact ends
    · rw [takeBack_eq_none ends] at taken
      cases taken
  · rintro ⟨rest, rfl, apart⟩
    rw [takeBack_word apart]
    rfl

instance (word s : List Char) : Decidable (StartsWith word s) :=
  decidable_of_iff _ isSome_takeFront

instance (word s : List Char) : Decidable (EndsWith word s) := decidable_of_iff _ isSome_takeBack

/-- What goes on with something else than a word character does not decide by which word a text
starts. -/
theorem startsWith_append_iff {after : List Char} (word_ : word.all isAsciiWordChar = true)
    (apart : after.head?.any isAsciiWordChar = false) :
    StartsWith word (s ++ after) ↔ StartsWith word s := by
  constructor
  · rintro ⟨rest, same, apart'⟩
    rcases List.append_eq_append_iff.mp same with ⟨x, rfl, rfl⟩ | ⟨x, rfl, rfl⟩
    · cases x with
      | nil => exact ⟨[], by simp, rfl⟩
      | cons b x =>
        have letter : isAsciiWordChar b = true := List.all_eq_true.mp word_ b (by simp)
        have other : isAsciiWordChar b = false := by simpa using apart
        cases letter.symm.trans other
    · cases x with
      | nil => exact ⟨[], by simp, rfl⟩
      | cons b x => exact ⟨b :: x, rfl, by simpa using apart'⟩
  · rintro ⟨rest, rfl, apart'⟩
    refine ⟨rest ++ after, List.append_assoc word rest after, ?_⟩
    cases rest with
    | nil => exact apart
    | cons b rest => exact apart'

/-- A text that ends with something else than a word character starts with the same words whatever
follows. -/
theorem startsWith_of_last {after : List Char} (word_ : word.all isAsciiWordChar = true)
    (nonempty : s ≠ []) (last : s.getLast?.any isAsciiWordChar = false)
    (starts : StartsWith word (s ++ after)) : StartsWith word s := by
  rw [List.getLast?_eq_some_getLast nonempty] at last
  have apart (more : List Char) :
      (s.getLast nonempty :: more).head?.any isAsciiWordChar = false := last
  rw [← List.dropLast_concat_getLast nonempty] at starts ⊢
  rw [List.append_assoc, List.singleton_append, startsWith_append_iff word_ (apart after)] at starts
  exact (startsWith_append_iff word_ (apart [])).mpr starts

/-! ### Words next to signs -/

/-- A word without a character is found in front of that character or not at all. -/
theorem behind?_append {c : Char} (absent : c ∉ word) (s after : List Char) :
    behind? word (s ++ c :: after) = (behind? word s).map (· ++ c :: after) := by
  induction word generalizing s with
  | nil => rfl
  | cons a word ih =>
    have other : a ≠ c := by
      rintro rfl
      exact absent List.mem_cons_self
    cases s with
    | nil => exact if_neg other
    | cons d s =>
      have rest := ih (fun member => absent (List.mem_cons_of_mem a member)) s
      by_cases same : a = d
      · simpa [behind?, same] using rest
      · simp [behind?, same]

/-- A word without a character is found behind that character or not at all. -/
theorem before?_append {c : Char} (absent : c ∉ word) (front s : List Char) :
    before? word (front ++ c :: s) = (before? word s).map (front ++ c :: ·) := by
  have reversed : (front ++ c :: s).reverse = s.reverse ++ c :: front.reverse := by simp
  have found := behind?_append (mt List.mem_reverse.mp absent) s.reverse front.reverse
  unfold before?
  rw [reversed, found, Option.map_map, Option.map_map]
  congr 1
  funext rest
  simp

section Sign
variable {c : Char} (word_ : word.all isAsciiWordChar = true) (visible : isBlank c = false)
  (apart : isAsciiWordChar c = false)
include word_ visible apart

theorem takeFront_sign (s after : List Char) :
    takeFront word true (s ++ c :: after) = (takeFront word true s).map (· ++ c :: after) := by
  have absent : c ∉ word := by
    intro member
    cases (List.all_eq_true.mp word_ c member).symm.trans apart
  unfold takeFront
  rw [behind?_append absent]
  cases behind? word s with
  | none => rfl
  | some rest =>
    have next : (rest ++ c :: after).head?.any isAsciiWordChar =
        rest.head?.any isAsciiWordChar := by
      cases rest with
      | nil => exact apart
      | cons d rest => rfl
    simp only [Option.map_some, next, trimStart_of_visible visible]
    split <;> rfl

theorem takeBack_sign (front s : List Char) :
    takeBack word true (front ++ c :: s) = (takeBack word true s).map (front ++ c :: ·) := by
  have absent : c ∉ word := by
    intro member
    cases (List.all_eq_true.mp word_ c member).symm.trans apart
  unfold takeBack
  rw [before?_append absent]
  cases before? word s with
  | none => rfl
  | some rest =>
    have last : (front ++ c :: rest).getLast?.any isAsciiWordChar =
        rest.getLast?.any isAsciiWordChar := by
      cases ends : rest.getLast? with
      | none => simp [List.getLast?_eq_none_iff.mp ends, apart]
      | some d => simp [List.getLast?_append, List.getLast?_cons, ends]
    simp only [Option.map_some, last, trimEnd_of_visible visible]
    split <;> rfl

theorem endsWith_sign (front s : List Char) :
    EndsWith word (front ++ c :: s) ↔ EndsWith word s := by
  rw [← isSome_takeBack, takeBack_sign word_ visible apart, Option.isSome_map, isSome_takeBack]

end Sign

end CxxTrees.Spelling
