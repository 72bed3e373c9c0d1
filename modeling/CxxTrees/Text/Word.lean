import CxxTrees.Text.Alphabetic
import CxxTrees.Text.Numeric

/-!
# Characters of words

Tokens take identifiers in every script. The keywords looked for at the ends of
a spelling are told from longer words by ASCII letters, digits and underscores
alone.
-/

namespace CxxTrees.Text

def isIdentifierStart (c : Char) : Bool := isAlphabetic c || c == '_'

def isIdentifierChar (c : Char) : Bool := isAlphabetic c || isNumeric c || c == '_'

/-- A letter, digit or underscore of ASCII. -/
def isAsciiWordChar (c : Char) : Bool := c.isAlphanum || c == '_'

theorem isIdentifierChar_of_isIdentifierStart {c : Char} (h : isIdentifierStart c = true) :
    isIdentifierChar c = true := by
  simp only [isIdentifierStart, isIdentifierChar, Bool.or_eq_true] at h ⊢
  rcases h with h | h
  · exact .inl (.inl h)
  · exact .inr h

end CxxTrees.Text
