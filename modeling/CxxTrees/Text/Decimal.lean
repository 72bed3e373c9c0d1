/-!
# Decimal numbers

Reading an unsigned number of 64 bits from its digits. A plus sign may stand in
front, zeros too, and nothing else.
-/

namespace CxxTrees.Text

def digitValue (c : Char) : Nat := c.toNat - '0'.toNat

def digitsValue (digits : List Char) : Nat := digits.foldl (fun n c => 10 * n + digitValue c) 0

def dropPlus : List Char → List Char
  | '+' :: s => s
  | s => s

def readUnsigned? (s : List Char) : Option UInt64 :=
  let digits := dropPlus s
  if digits ≠ [] ∧ digits.all Char.isDigit ∧ digitsValue digits < UInt64.size then
    some (.ofNat (digitsValue digits))
  else none

end CxxTrees.Text
