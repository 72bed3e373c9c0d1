import CxxTrees.Text.Blank
import CxxTrees.Text.Bytes

/-!
# Argument lists

The text between the outermost brackets of a template instantiation is cut at
its top-level commas. Inside `(`, `{` and `[` nothing else counts; outside of
them `<` and `>` nest, and are never taken for operators. A closing bracket
that nothing opened is passed over.
-/

namespace CxxTrees.Spelling
open Text

/-- How many brackets are open: those around expressions, and angle brackets
outside of these. -/
structure Nesting where
  brackets : Nat
  angles : Nat
deriving DecidableEq

namespace Nesting

def top : Nesting := ⟨0, 0⟩

def step (d : Nesting) (c : Char) : Nesting :=
  if c = '(' ∨ c = '\x7b' ∨ c = '[' then { d with brackets := d.brackets + 1 }
  else if c = ')' ∨ c = '\x7d' ∨ c = ']' then { d with brackets := d.brackets - 1 }
  else if d.brackets ≠ 0 then d
  else if c = '<' then { d with angles := d.angles + 1 }
  else if c = '>' then { d with angles := d.angles - 1 }
  else d

end Nesting

/-- The text between top-level commas, as written: always one piece more than
there are such commas. -/
def pieces (d : Nesting) : List Char → List (List Char)
  | [] => [[]]
  | c :: cs =>
    if c = ',' ∧ d = Nesting.top then [] :: pieces d cs
    else (pieces (d.step c) cs).modifyHead (c :: ·)

/-- The arguments of an argument list, trimmed. An empty last piece is none. -/
def arguments (body : List Char) : List (List Char) :=
  let all := pieces Nesting.top body
  (if all.getLast? = some [] then all.dropLast else all).map trim

/-- The arguments behind a template's name and its opening bracket. -/
def argumentsBehind (name s : List Char) : List (List Char) :=
  arguments ((dropBytes? (byteLength name + 1) s).getD [])

end CxxTrees.Spelling
