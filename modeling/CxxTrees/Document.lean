/-!
# Documents

The values that tables, options and trees are recorded as. A field that is
missing reads as null.
-/

namespace CxxTrees

inductive Document where
  | null
  | bool (value : Bool)
  | number (value : Int)
  | text (value : String)
  | list (items : List Document)
  | object (fields : List (String × Document))
deriving Inhabited

namespace Document

def ofNat (n : Nat) : Document := .number n

def ofOption (f : α → Document) : Option α → Document
  | none => .null
  | some a => f a

def ofList (f : α → Document) (l : List α) : Document := .list (l.map f)

/-- The value of a field, if the document is an object at all. -/
def field? (name : String) : Document → Option Document
  | .object fields => some ((fields.lookup name).getD .null)
  | _ => none

def bool? : Document → Option Bool
  | .bool value => some value
  | _ => none

def text? : Document → Option String
  | .text value => some value
  | _ => none

def list? (f : Document → Option α) : Document → Option (List α)
  | .list items => items.mapM f
  | _ => none

/-- A number from 0 up to below `bound`. -/
def nat? (bound : Nat) : Document → Option Nat
  | .number (.ofNat n) => if n < bound then some n else none
  | _ => none

/-- Null, or what `f` reads. -/
def optional? (f : Document → Option α) : Document → Option (Option α)
  | .null => some none
  | d => (f d).map some

end Document

end CxxTrees
