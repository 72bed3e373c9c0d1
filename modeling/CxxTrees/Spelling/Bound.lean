import CxxTrees.Fault
import CxxTrees.Text.Blank
import CxxTrees.Text.Bytes

/-!
# Array bounds

The spelling of an array ends in one or more bounds in square brackets. Arrays
are built from their outermost dimension inwards, so the bound wanted is the
first of these; the later ones belong to the element.
-/

namespace CxxTrees.Spelling
open Text

inductive BoundFault where
  | noBracket | unmatched
deriving DecidableEq

def BoundFault.reason : BoundFault → String
  | .noBracket => "array spelling must end in ']'"
  | .unmatched => "array spelling has an unmatched ']'"

/-- Reads a spelling backwards. Within a bound, `bound` is what was read of it
and `depth` says how many brackets are open inside; behind its opening bracket
there is no depth, and either another bound stands in front of it or it is the
first. -/
def scanBound (depth : Option Nat) (bound : List Char) : List Char → Option (List Char)
  | [] =>
    match depth with
    | none => some bound
    | some _ => none
  | c :: rest =>
    match depth with
    | none => if c = ']' then scanBound (some 0) [] rest else some bound
    | some 0 =>
      if c = '[' then scanBound none bound rest
      else scanBound (some (if c = ']' then 1 else 0)) (c :: bound) rest
    | some (depth + 1) =>
      let depth := if c = '[' then depth else if c = ']' then depth + 2 else depth + 1
      scanBound (some depth) (c :: bound) rest

/-- The text of the first bound. -/
def firstBound (s : List Char) : Except BoundFault (List Char) :=
  let s := trim s
  if byteLength s ≤ 2 ∨ s.getLast? ≠ some ']' then .error .noBracket
  else match scanBound none [] s.reverse with
    | some bound => .ok bound
    | none => .error .unmatched

/-- The text of the first bound, or the fault in an array's spelling. -/
def boundOf (s : List Char) : Except Fault (List Char) :=
  match firstBound s with
  | .ok bound => .ok bound
  | .error fault => .error (.malformedSpelling (String.ofList (trim s)) fault.reason)

end CxxTrees.Spelling
