import CxxTrees.Proofs.Spelling.Written

/-!
# Qualified texts

Whatever qualifiers stand on the two sides of a text and whatever blanks around them: each
qualifier comes off, and the text is left as it is (`outerCv_qualified`).
-/

namespace CxxTrees
open Text

/-- A text with qualifiers on either side. Between the qualifiers and the text there are blanks,
unless no word goes on there. The text itself neither starts nor ends with a qualifier. -/
structure QualifiedText where
  before : CvText
  frontPad : Blanks
  core : List Char
  backPad : Blanks
  after : CvText
  nonempty : core ≠ []
  trimmed : trim core = core
  frontApart : frontPad.text ≠ [] ∨ core.head?.any isAsciiWordChar = false
  backApart : backPad.text ≠ [] ∨ core.getLast?.any isAsciiWordChar = false
  bare : ∀ q : Qualifier, ¬ Spelling.StartsWith q.word core ∧ ¬ Spelling.EndsWith q.word core

namespace QualifiedText
open Spelling
variable (written : QualifiedText)

def text : List Char :=
  written.before.front written.frontPad.text ++
    (written.core ++ written.after.behind written.backPad.text)

/-- The qualifiers on the two sides together. -/
def cv : Cv where
  isConst := written.before.cv.isConst || written.after.cv.isConst
  isVolatile := written.before.cv.isVolatile || written.after.cv.isVolatile

theorem outerCv_text : outerCv written.text = (written.cv, written.core) := by
  obtain ⟨visible, visible'⟩ := ends_of_trimmed written.trimmed
  exact outerCv_written written.before written.after written.frontPad.blank written.backPad.blank
    visible visible' written.frontApart written.backApart written.nonempty written.bare

/-- All qualifiers on the two sides of a text come off together, each that is on one of them,
and nothing of the text does. -/
theorem outerCv_qualified (front back : Blanks) :
    outerCv (front.text ++ (written.text ++ back.text)) =
      ({ isConst := written.before.cv.isConst || written.after.cv.isConst
         isVolatile := written.before.cv.isVolatile || written.after.cv.isVolatile },
        written.core) := by
  obtain ⟨visible, visible'⟩ := ends_of_trimmed written.trimmed
  have trimmed : trim written.text = written.text :=
    trim_written written.before written.after _ _ visible visible' written.nonempty
  have nonempty : written.text ≠ [] := by simp [text, written.nonempty]
  have around : trim (front.text ++ (written.text ++ back.text)) = trim written.text := by
    rw [trim_around front.blank back.blank nonempty trimmed, trimmed]
  have qualifiers := written.outerCv_text
  unfold outerCv at qualifiers ⊢
  rw [around]
  exact qualifiers

end QualifiedText

/-- Both qualifiers in front, and one of them again right behind a closing bracket. -/
def qualifiedVector : QualifiedText where
  before := .both .volatile .space
  frontPad := .space
  core := "vector<const int>".toList
  backPad := .none
  after := .one .const
  nonempty := by decide
  trimmed := by decide
  frontApart := by decide
  backApart := by decide
  bare q := by cases q <;> decide

theorem outerCv_qualifiedVector :
    qualifiedVector.text = "volatile const vector<const int>const".toList ∧
      Spelling.outerCv ([' '] ++ (qualifiedVector.text ++ [])) =
        ({ isConst := true, isVolatile := true }, "vector<const int>".toList) :=
  ⟨by decide, qualifiedVector.outerCv_qualified .space .none⟩

end CxxTrees
