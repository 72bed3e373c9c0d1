import CxxTrees.Text.Blank
import CxxTrees.Text.Word

/-!
# Scanning tokens

Text is cut into C++ tokens from the left, each the longest of its kind: words
(with a quoted literal attached to an encoding prefix), numbers, quoted
literals and punctuators. Blanks end a token and are in none, except inside of
quotes.
-/

namespace CxxTrees.Token
open Text

def punctuators3 : List (List Char) :=
  ["<<=", ">>=", "->*", "...", "<=>"].map String.toList

def punctuators2 : List (List Char) :=
  ["::", "->", "++", "--", "<<", ">>", "<=", ">=", "==", "!=", "&&", "||", "+=", "-=", "*=", "/=",
    "%=", "&=", "|=", "^=", ".*", "##"].map String.toList

/-- The words that belong to a quoted literal directly behind them. -/
def encodingWords : List (List Char) := ["L", "u", "U", "u8", "R"].map String.toList

def isQuote (c : Char) : Bool := c == '\x22' || c == '\x27'

/-! ### How far a token reaches

Each function counts the characters that continue a token, in the text behind
what was read of it. -/

/-- Up to and with the closing quote; a backslash takes the character behind it along. -/
def quotedExtent (quote : Char) : List Char → Nat
  | [] => 0
  | ['\\'] => 1
  | '\\' :: _ :: cs => quotedExtent quote cs + 2
  | c :: cs => if c = quote then 1 else quotedExtent quote cs + 1

/-- A character that goes on with a number, when `last` is the one before it. -/
def continuesNumber (last c : Char) : Bool :=
  ((c == '+' || c == '-') && (last == 'e' || last == 'E' || last == 'p' || last == 'P'))
    || isIdentifierChar c || c == '.' || c == '\x27'

def numberExtent (last : Char) : List Char → Nat
  | [] => 0
  | c :: cs => if continuesNumber last c then numberExtent c cs + 1 else 0

def wordExtent (first : Char) (s : List Char) : Nat :=
  let more := s.takeWhile isIdentifierChar
  match s.drop more.length with
  | c :: cs =>
    if isQuote c && encodingWords.contains (first :: more) then
      more.length + 1 + quotedExtent c cs
    else more.length
  | [] => more.length

def punctuatorExtent (s : List Char) : Nat :=
  if punctuators3.any (·.isPrefixOf s) then 2
  else if punctuators2.any (·.isPrefixOf s) then 1
  else 0

/-- How many characters of `s` belong to the token that starts with `c` in front of it. -/
def extent (c : Char) (s : List Char) : Nat :=
  if isIdentifierStart c then wordExtent c s
  else if c.isDigit || (c == '.' && s.head?.any Char.isDigit) then numberExtent c s
  else if isQuote c then quotedExtent c s
  else punctuatorExtent (c :: s)

/-! ### Cutting -/

/-- The tokens behind the next `skip` characters. -/
def scanFrom : (skip : Nat) → List Char → List (List Char)
  | _, [] => []
  | skip + 1, _ :: s => scanFrom skip s
  | 0, c :: s =>
    if isBlank c then scanFrom 0 s
    else (c :: s.take (extent c s)) :: scanFrom (extent c s) s

def scan (s : List Char) : List (List Char) := scanFrom 0 s

theorem scanFrom_eq_scan_drop (skip : Nat) (s : List Char) :
    scanFrom skip s = scan (s.drop skip) := by
  induction s generalizing skip with
  | nil => cases skip <;> simp [scanFrom, scan]
  | cons c s ih =>
    cases skip with
    | zero => rfl
    | succ skip => simpa [scanFrom] using ih skip

theorem scan_nil : scan [] = [] := rfl

theorem scan_cons (c : Char) (s : List Char) :
    scan (c :: s) =
      if isBlank c then scan s
      else (c :: s.take (extent c s)) :: scan (s.drop (extent c s)) := by
  rw [← scanFrom_eq_scan_drop]
  rfl

end CxxTrees.Token
