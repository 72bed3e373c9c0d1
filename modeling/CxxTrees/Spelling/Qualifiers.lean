import CxxTrees.Qualifier
import CxxTrees.Spelling.Ends

/-!
# Qualifiers, tags and scopes of a spelling

The parts of a spelling that stand around the name of a type: cv-qualifiers
before and after it, a tag keyword, the scope it is declared in, and the
ref-qualifier of a member function.
-/

namespace CxxTrees.Spelling
open Text

def constWord : List Char := "const".toList

def volatileWord : List Char := "volatile".toList

/-- Takes one qualifier off that was not met before, `const` if there is a choice. -/
def peelOne (take : List Char → List Char → Option (List Char)) (found : Cv × List Char) :
    Option (Cv × List Char) :=
  let const? := if found.1.isConst then none else take constWord found.2
  let volatile? := if found.1.isVolatile then none else take volatileWord found.2
  match const?, volatile? with
  | some rest, _ => some ({ found.1 with isConst := true }, rest)
  | none, some rest => some ({ found.1 with isVolatile := true }, rest)
  | none, none => none

/-- Takes off every qualifier once, in either order. -/
def peel (take : List Char → List Char → Option (List Char)) (s : List Char) : Cv × List Char :=
  match peelOne take (Cv.none, s) with
  | none => (Cv.none, s)
  | some found => (peelOne take found).getD found

/-- The qualifiers written before a type, as in `const int`, and the rest. -/
def leadingCv (s : List Char) : Cv × List Char := peel (takeFront · true) s

/-- The qualifiers written after a type, as in `int const`, and the rest. -/
def trailingCv (s : List Char) : Cv × List Char := peel (takeBack · true) s

/-- The qualifiers on both sides of a name together, and the name. -/
def outerCv (s : List Char) : Cv × List Char :=
  let front := leadingCv (trim s)
  let back := trailingCv front.2
  (front.1.union back.1, back.2)

def tagKeywords : List (List Char) := ["struct".toList, "class".toList, "union".toList]

/-- Takes off the keyword of an elaborated name, as in `struct s`. -/
def stripTag (s : List Char) : List Char :=
  tagKeywords.foldl (fun rest keyword => (takeFront keyword true rest).getD rest) s

/-- Everything behind the last colon. -/
def unscoped (s : List Char) : List Char := (s.reverse.takeWhile (· != ':')).reverse

/-- The ref-qualifier that ends the spelling of a member function, and the rest. -/
def trailingRef (s : List Char) : Option RefKind × List Char :=
  match takeBack "&&".toList false s, takeBack "&".toList false s with
  | some rest, _ => (some .rvalue, rest)
  | none, some rest => (some .lvalue, rest)
  | none, none => (none, s)

/-- The qualifiers of a name, and the name without its tag keyword. -/
def leaf (s : List Char) : Cv × List Char :=
  let found := outerCv s
  (found.1, stripTag found.2)

end CxxTrees.Spelling
