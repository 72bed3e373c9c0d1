import Mathlib.Data.List.Basic
import CxxTrees.Proofs.Text.Classes

/-!
# Trimmed texts

Trimming takes off blanks alone, and stops at the first character that is visible.
-/

namespace CxxTrees
open Text

/-- Blanks, perhaps none. -/
structure Blanks where
  text : List Char
  blank : text.all isBlank = true

/-- The blanks between two words. -/
structure Gap where
  text : List Char
  nonempty : text ≠ []
  blank : text.all isBlank = true

def Blanks.none : Blanks := ⟨[], by decide⟩

def Blanks.space : Blanks := ⟨[' '], by decide⟩

def Gap.space : Gap := ⟨[' '], by decide, by decide⟩

theorem Gap.head_append (gap : Gap) (s : List Char) :
    ∃ b rest, gap.text ++ s = b :: rest ∧ isBlank b = true := by
  obtain ⟨text, nonempty, blank⟩ := gap
  cases text with
  | nil => exact absurd rfl nonempty
  | cons b text => exact ⟨b, text ++ s, rfl, List.all_eq_true.mp blank b List.mem_cons_self⟩

end CxxTrees

namespace CxxTrees.Text
variable {s gap : List Char}

theorem trimStart_append (blank : gap.all isBlank = true) (s : List Char) :
    trimStart (gap ++ s) = trimStart s :=
  List.dropWhile_append_of_pos (List.all_eq_true.mp blank)

theorem trimStart_of_head (visible : s.head?.any isBlank = false) : trimStart s = s := by
  cases s with
  | nil => rfl
  | cons c s =>
    rw [trimStart_cons, if_neg (by simpa using visible)]

theorem trimEnd_append (blank : gap.all isBlank = true) (s : List Char) :
    trimEnd (s ++ gap) = trimEnd s := by
  have reversed : gap.reverse.all isBlank = true := by simpa using blank
  unfold trimEnd
  rw [List.reverse_append]
  exact congrArg List.reverse (trimStart_append reversed s.reverse)

theorem trimEnd_of_last (visible : s.getLast?.any isBlank = false) : trimEnd s = s := by
  have := trimStart_of_head (s := s.reverse) (by simpa using visible)
  unfold trimEnd
  rw [trimStart] at this
  rw [this, List.reverse_reverse]

theorem exists_trimStart (s : List Char) :
    ∃ front, s = front ++ trimStart s ∧ front.all isBlank = true :=
  ⟨_, List.takeWhile_append_dropWhile.symm, List.all_takeWhile⟩

theorem head_trimStart (s : List Char) : (trimStart s).head?.any isBlank = false := by
  have first := List.head?_dropWhile_not isBlank s
  cases trimmed : (trimStart s).head? with
  | none => rfl
  | some c =>
    rw [trimStart] at trimmed
    rw [trimmed] at first
    exact first

theorem exists_trimEnd (s : List Char) :
    ∃ back, s = trimEnd s ++ back ∧ back.all isBlank = true := by
  obtain ⟨front, parts, blank⟩ := exists_trimStart s.reverse
  have parts := congrArg List.reverse parts
  rw [List.reverse_reverse, List.reverse_append] at parts
  exact ⟨front.reverse, parts, by simpa using blank⟩

theorem last_trimEnd (s : List Char) : (trimEnd s).getLast?.any isBlank = false := by
  rw [trimEnd, List.getLast?_reverse]
  exact head_trimStart s.reverse

theorem trim_of_ends (front : s.head?.any isBlank = false) (back : s.getLast?.any isBlank = false) :
    trim s = s := by
  rw [trim, trimStart_of_head front, trimEnd_of_last back]

theorem trimStart_of_visible {c : Char} (visible : isBlank c = false) (s after : List Char) :
    trimStart (s ++ c :: after) = trimStart s ++ c :: after := by
  unfold trimStart
  rw [List.dropWhile_append, List.dropWhile_cons_of_neg (by simp [visible])]
  split
  · rename_i nothing
    rw [List.isEmpty_iff.mp nothing, List.nil_append]
  · rfl

theorem trimEnd_of_visible {c : Char} (visible : isBlank c = false) (front s : List Char) :
    trimEnd (front ++ c :: s) = front ++ c :: trimEnd s := by
  have reversed : (front ++ c :: s).reverse = s.reverse ++ c :: front.reverse := by simp
  have kept := trimStart_of_visible visible s.reverse front.reverse
  unfold trimStart at kept
  unfold trimEnd
  rw [reversed, kept]
  simp

theorem trim_concat {c : Char} (visible : isBlank c = false) (s : List Char) :
    trim (s ++ [c]) = trimStart s ++ [c] := by
  rw [trim, trimStart_of_visible visible, trimEnd_of_last]
  simpa using visible

/-- A trimmed text starts and ends with no blank. -/
theorem ends_of_trimmed (trimmed : trim s = s) :
    s.head?.any isBlank = false ∧ s.getLast?.any isBlank = false := by
  have inside : trim s <+: trimStart s := trimEnd_prefix (trimStart s)
  rw [trimmed] at inside
  have start : trimStart s = s := (trimStart_suffix s).eq_of_length_le inside.length_le
  have front := head_trimStart s
  have back : (trim s).getLast?.any isBlank = false := last_trimEnd (trimStart s)
  rw [start] at front
  rw [trimmed] at back
  exact ⟨front, back⟩

theorem trim_around {gap' : List Char} (blank : gap.all isBlank = true)
    (blank' : gap'.all isBlank = true) (nonempty : s ≠ []) (trimmed : trim s = s) :
    trim (gap ++ (s ++ gap')) = s := by
  obtain ⟨front, back⟩ := ends_of_trimmed trimmed
  have visible : (s ++ gap').head?.any isBlank = false := by
    rwa [List.head?_append_of_ne_nil s nonempty]
  rw [trim, trimStart_append blank, trimStart_of_head visible, trimEnd_append blank',
    trimEnd_of_last back]

/-- A text has blanks on either side of what is left of it when it is trimmed. -/
theorem exists_trim (s : List Char) :
    ∃ front back, s = front ++ (trim s ++ back) ∧ front.all isBlank = true ∧
      back.all isBlank = true := by
  obtain ⟨front, start, blankFront⟩ := exists_trimStart s
  obtain ⟨back, rest, blankBack⟩ := exists_trimEnd (trimStart s)
  exact ⟨front, back, start.trans (congrArg (front ++ ·) rest), blankFront, blankBack⟩

theorem last_trim (s : List Char) : (trim s).getLast?.any isBlank = false :=
  last_trimEnd (trimStart s)

end CxxTrees.Text
