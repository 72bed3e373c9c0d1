import CxxTrees.Proofs.Spelling.Offsets
import CxxTrees.Proofs.Spelling.Qualified

/-!
# Scoped texts

What is left of a type that is spelled with its scope once everything up to the last colon is
taken off. The scope goes, but so do qualifiers in front of it, and everything up to a colon
among the template arguments (`unscoped_text_iff`).
-/

namespace CxxTrees
open Text

namespace Spelling
variable {s : List Char}

/-! ### Behind the last colon -/

theorem unscoped_append_plain {back : List Char} (absent : ':' ∉ back) (front : List Char) :
    unscoped (front ++ back) = unscoped front ++ back := by
  unfold unscoped
  rw [List.reverse_append, takeWhile_plain absent, List.reverse_append, List.reverse_reverse]

theorem unscoped_suffix (s : List Char) : unscoped s <:+ s := by
  have behind := List.reverse_suffix.mpr (List.takeWhile_prefix (· != ':') : _ <+: s.reverse)
  rwa [List.reverse_reverse] at behind

theorem colon_notMem_unscoped (s : List Char) : ':' ∉ unscoped s := by
  intro member
  have taken := List.all_eq_true.mp (List.all_takeWhile (p := (· != ':')) (l := s.reverse)) ':'
    (List.mem_reverse.mp member)
  cases taken

theorem unscoped_eq_self : unscoped s = s ↔ ':' ∉ s := by
  refine ⟨fun whole => ?_, unscoped_of_plain⟩
  rw [← whole]
  exact colon_notMem_unscoped s

/-! ### Written qualifiers -/

theorem colon_notMem_behind (cv : CvText) {pad : List Char} (blank : pad.all isBlank = true) :
    ':' ∉ cv.behind pad := by
  have blanks {gap : List Char} (blank : gap.all isBlank = true) : ':' ∉ gap := by
    intro member
    cases List.all_eq_true.mp blank ':' member
  have word (q : Qualifier) : ':' ∉ q.word := by cases q <;> decide
  cases cv with
  | none => exact List.not_mem_nil
  | one q => simp [CvText.behind, blanks blank, word]
  | both q gap => simp [CvText.behind, blanks blank, blanks gap.blank, word]

theorem front_eq_nil {cv : CvText} (pad : List Char) : cv.front pad = [] ↔ cv = .none := by
  have word (q : Qualifier) : q.word ≠ [] := by cases q <;> exact List.cons_ne_nil _ _
  cases cv <;> simp [CvText.front, word]

end Spelling

/-- The template arguments behind a name, in their brackets. -/
def argumentList : Option (List Char) → List Char
  | none => []
  | some body => '<' :: (body ++ ['>'])

/-- A name in its scope, perhaps with template arguments, between its qualifiers. -/
structure ScopedText extends QualifiedText where
  scope : List Char
  name : List Char
  arguments : Option (List Char)
  spelled : core = scope ++ ':' :: ':' :: (name ++ argumentList arguments)
  named : name ≠ []
  plain : ':' ∉ name
  visible : name.head?.any isBlank = false
  unqualified : ∀ q : Qualifier, ¬ Spelling.StartsWith q.word name

namespace ScopedText
open Spelling
variable (written : ScopedText)

def lastPart : List Char := written.name ++ argumentList written.arguments

/-- The text without its scope, and with everything else. -/
def withoutScope : List Char :=
  written.before.front written.frontPad.text ++
    (written.lastPart ++ written.after.behind written.backPad.text)

/-! ### What is left -/

theorem core_eq : written.core = (written.scope ++ [':']) ++ ':' :: written.lastPart := by
  simp [written.spelled, lastPart]

theorem unscoped_text : unscoped written.text =
    unscoped written.lastPart ++ written.after.behind written.backPad.text := by
  have parts : written.text =
      (written.before.front written.frontPad.text ++ (written.scope ++ [':'])) ++ ':' ::
        (written.lastPart ++ written.after.behind written.backPad.text) := by
    simp [QualifiedText.text, core_eq]
  rw [parts, unscoped_append,
    unscoped_append_plain (colon_notMem_behind written.after written.backPad.blank)]

theorem colon_mem_lastPart : ':' ∈ written.lastPart ↔ ':' ∈ argumentList written.arguments := by
  rw [lastPart, List.mem_append]
  exact or_iff_right written.plain

/-- Nothing but the scope goes exactly if no qualifiers stand in front of it and there is no colon
among the arguments. -/
theorem unscoped_text_iff : unscoped written.text = written.withoutScope ↔
    written.before = .none ∧ ':' ∉ argumentList written.arguments := by
  rw [unscoped_text, withoutScope, ← List.append_assoc, List.append_cancel_right_eq,
    ← written.colon_mem_lastPart, ← front_eq_nil written.frontPad.text, ← unscoped_eq_self]
  constructor
  · intro same
    have shorter := (unscoped_suffix written.lastPart).length_le
    have lengths := congrArg List.length same
    rw [List.length_append] at lengths
    have nothing : written.before.front written.frontPad.text = [] :=
      List.eq_nil_of_length_eq_zero (by omega)
    rw [nothing, List.nil_append] at same
    exact ⟨nothing, same⟩
  · rintro ⟨nothing, whole⟩
    rw [nothing, whole, List.nil_append]

/-! ### The qualifiers of what is left -/

theorem not_startsWith_lastPart (q : Qualifier) : ¬ StartsWith q.word written.lastPart := by
  have ends : (argumentList written.arguments).head?.any isAsciiWordChar = false := by
    cases written.arguments <;> rfl
  exact mt (startsWith_append_iff (all_word q) ends).mp (written.unqualified q)

theorem not_endsWith_lastPart (q : Qualifier) : ¬ EndsWith q.word written.lastPart := by
  have bare := (written.bare q).2
  rwa [core_eq, endsWith_sign (all_word q) (by decide) rfl] at bare

theorem head_lastPart : written.lastPart.head?.any isBlank = false := by
  rw [lastPart, List.head?_append_of_ne_nil _ written.named]
  exact written.visible

theorem lastPart_ne_nil : written.lastPart ≠ [] := by simp [lastPart, written.named]

theorem getLast?_core : written.core.getLast? = written.lastPart.getLast? := by
  rw [core_eq, List.getLast?_append_cons, List.getLast?_cons_of_ne_nil written.lastPart_ne_nil]

/-- Without a colon among the arguments, what is left starts with no qualifier. -/
theorem leadingCv_left (absent : ':' ∉ argumentList written.arguments) :
    leadingCv (trimStart (unscoped written.lastPart)) = (Cv.none, written.lastPart) := by
  rw [unscoped_of_plain (mt written.colon_mem_lastPart.mp absent),
    trimStart_of_head written.head_lastPart]
  exact peel_none fun q => takeFront_eq_none (written.not_startsWith_lastPart q)

/-- The qualifiers behind stay, and those in front are read off what is left. -/
theorem outerCv_unscoped : (outerCv (unscoped written.text)).1 =
    (leadingCv (trimStart (unscoped written.lastPart))).1.union written.after.cv := by
  rw [unscoped_text]
  cases list : written.arguments with
  | none =>
    have absent : ':' ∉ argumentList written.arguments := by rw [list]; exact List.not_mem_nil
    have visible := (ends_of_trimmed written.trimmed).2
    have apart := written.backApart
    rw [written.getLast?_core] at visible apart
    have whole := outerCv_written .none written.after Blanks.space.blank written.backPad.blank
      written.head_lastPart visible (.inl (List.cons_ne_nil _ _)) apart written.lastPart_ne_nil
      fun q => ⟨written.not_startsWith_lastPart q, written.not_endsWith_lastPart q⟩
    rw [written.leadingCv_left absent, unscoped_of_plain (mt written.colon_mem_lastPart.mp absent)]
    exact congrArg Prod.fst whole
  | some body =>
    have closed : written.lastPart = (written.name ++ '<' :: body) ++ ['>'] := by
      simp [lastPart, argumentList, list]
    have left : unscoped written.lastPart = unscoped (written.name ++ '<' :: body) ++ ['>'] := by
      rw [closed, unscoped_append_plain (by decide)]
    rw [left, List.append_assoc, List.singleton_append, trimStart_of_visible (by decide),
      leadingCv_sign (by decide) rfl, outerCv_sign (by decide) rfl _ _ written.backPad.blank]

end ScopedText

end CxxTrees
