import CxxTrees.Build.Basic
import CxxTrees.Spelling.Qualifiers

/-!
# Sites

A type is looked at from a cursor, which decides how the type is spelled there
and what its names refer to.
-/

namespace CxxTrees

/-- A type and the cursor it was reached from. -/
structure Site where
  cursor : Cursor
  type : TypeHandle
deriving DecidableEq

namespace Frontend
variable (fe : Frontend)

/-- Whether a type is a typedef of the scope it is seen from. -/
def isLocalTypedef (site : Site) : Except Stop Bool := do
  let facts ← fe.type site.type
  if facts.kind ≠ .typedef then return false
  match facts.declaration with
  | none => return false
  | some declaration =>
    return (← fe.cursor declaration).semanticParent = (← fe.cursor site.cursor).semanticParent

/-- How a type is spelled at its site: a typedef of the same scope goes without
the scope that the frontend puts in front. -/
def spellingAt (site : Site) : Except Stop (List Char) := do
  let spelling := (← fe.type site.type).spelling.toList
  return if ← fe.isLocalTypedef site then Spelling.unscoped spelling else spelling

/-- The qualifiers and the name that a type is spelled with at its site. -/
def leafAt (site : Site) : Except Stop (Cv × List Char) :=
  return Spelling.leaf (← fe.spellingAt site)

/-- A handle, if there is one and its type is not invalid. -/
def valid (t : Option TypeHandle) : Except Stop (Option TypeHandle) :=
  match t with
  | none => return none
  | some t => return if (← fe.type t).kind = .invalid then none else some t

end Frontend

end CxxTrees
