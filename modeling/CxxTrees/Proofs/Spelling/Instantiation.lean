import CxxTrees.Build.Instantiation
import CxxTrees.Proofs.Spelling.Written

/-!
# Written instantiations

An instantiation is written as a name with text in angle brackets behind it, and with
qualifiers on either side. Each of the three comes back: what is between the first
opening bracket and the closing one at the end is the text.
-/

namespace CxxTrees
open Text

theorem splitName_of_plain {name : List Char} (plain : '<' ∉ name) (tail : List Char) :
    splitName (name ++ '<' :: tail) = some (name, tail) := by
  induction name with
  | nil => rfl
  | cons c name ih =>
    have other : c ≠ '<' := fun same => plain (same ▸ List.mem_cons_self)
    have rest : '<' ∉ name := fun member => plain (List.mem_cons_of_mem c member)
    rw [List.cons_append, splitName, if_neg other, ih rest]
    rfl

theorem splitName_eq_none {s : List Char} (plain : '<' ∉ s) : splitName s = none := by
  induction s with
  | nil => rfl
  | cons c s ih =>
    have other : c ≠ '<' := fun same => plain (same ▸ List.mem_cons_self)
    have rest : '<' ∉ s := fun member => plain (List.mem_cons_of_mem c member)
    rw [splitName, if_neg other, ih rest]
    rfl

theorem withoutClosing_concat (body : List Char) : withoutClosing (body ++ ['>']) = some body := by
  have visible : (body ++ ['>']).getLast?.any isBlank = false := by
    rw [List.getLast?_concat]
    rfl
  rw [withoutClosing, trimEnd_of_last visible, Spelling.before?_eq_some]

/-- A name with text in angle brackets behind it, and qualifiers on either side, which are padded
with blanks if there are any. The name has no bracket in it and starts with neither a qualifier nor
a tag keyword. -/
structure InstantiationText where
  before : CvText
  frontPad : Blanks
  name : List Char
  body : List Char
  backPad : Blanks
  after : CvText
  nonempty : name ≠ []
  plain : '<' ∉ name
  visible : name.head?.any isBlank = false
  apart : frontPad.text ≠ [] ∨ name.head?.any isAsciiWordChar = false
  bare : ∀ q : Qualifier, ¬ Spelling.StartsWith q.word name
  untagged : ∀ keyword ∈ Spelling.tagKeywords, ¬ Spelling.StartsWith keyword name

namespace InstantiationText
open Spelling
variable (written : InstantiationText)

/-- The qualifiers on the two sides together. -/
def cv : Cv where
  isConst := written.before.cv.isConst || written.after.cv.isConst
  isVolatile := written.before.cv.isVolatile || written.after.cv.isVolatile

/-- What is written between the qualifiers. -/
def core : List Char := written.name ++ '<' :: (written.body ++ ['>'])

def text : List Char :=
  written.before.front written.frontPad.text ++
    (written.core ++ written.after.behind written.backPad.text)

/-- The bracket behind the name ends the word that it starts with. -/
theorem not_startsWith {word : List Char} (word_ : word.all isAsciiWordChar = true)
    (absent : ¬ StartsWith word written.name) (s : List Char) :
    ¬ StartsWith word (written.name ++ '<' :: s) :=
  mt (startsWith_append_iff word_ rfl).mp absent

theorem getLast?_core : written.core.getLast? = some '>' := by
  rw [core, ← List.cons_append, ← List.append_assoc, List.getLast?_concat]

theorem head?_core : written.core.head? = written.name.head? :=
  List.head?_append_of_ne_nil written.name written.nonempty

theorem outerCv_text : outerCv written.text = (written.cv, written.core) := by
  refine outerCv_written written.before written.after written.frontPad.blank
    written.backPad.blank ?_ ?_ ?_ ?_ ?_ ?_
  · rw [head?_core]
    exact written.visible
  · rw [getLast?_core]
    rfl
  · rw [head?_core]
    exact written.apart
  · rw [getLast?_core]
    exact .inr rfl
  · simp [core]
  · refine fun q => ⟨written.not_startsWith (all_word q) (written.bare q) _, ?_⟩
    rintro ⟨rest, same, _⟩
    obtain ⟨c, last, _, letter⟩ := getLast?_word q rest
    rw [← same, getLast?_core] at last
    obtain rfl := Option.some.inj last
    cases letter

theorem leaf_text : leaf written.text = (written.cv, written.core) := by
  have untagged : stripTag written.core = written.core := by
    refine stripTag_of_untagged fun keyword member => ?_
    have word_ : ∀ keyword ∈ tagKeywords, keyword.all isAsciiWordChar = true := by decide
    exact written.not_startsWith (word_ keyword member) (written.untagged keyword member) _
  rw [leaf, outerCv_text, untagged]

theorem splitName_core : splitName written.core = some (written.name, written.body ++ ['>']) :=
  splitName_of_plain written.plain _

end InstantiationText

end CxxTrees
