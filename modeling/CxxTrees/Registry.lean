import CxxTrees.Frontend.Basic

/-!
# Registry

The declarations that were registered, by id. A later one replaces an earlier
one of the same id, and an id that was never registered is not found.
-/

namespace CxxTrees

structure Registry where
  entities : List Entity := []
deriving DecidableEq

/-- A call whose ids were looked up. -/
structure ResolvedCall where
  caller : Option Entity
  callerMethod : Option Entity
  callee : Option Entity
  calleeMethod : Option Entity
deriving DecidableEq

namespace Registry

def lookup (r : Registry) (id : EntityId) : Option Entity := r.entities.find? (·.id == id)

def size (r : Registry) : Nat := r.entities.length

def insert (r : Registry) (e : Entity) : Registry :=
  if (r.lookup e.id).isSome then
    ⟨r.entities.map fun other => if other.id = e.id then e else other⟩
  else ⟨r.entities ++ [e]⟩

def insertAll (r : Registry) (entities : List Entity) : Registry := entities.foldl insert r

def resolve (r : Registry) (call : Call) : ResolvedCall where
  caller := call.caller.bind r.lookup
  callerMethod := call.callerMethod.bind r.lookup
  callee := r.lookup call.callee
  calleeMethod := r.lookup call.calleeMethod

end Registry

/-- What is registered of a tree: neither expressions nor the translation unit. -/
def CursorKind.isRegistered (kind : CursorKind) : Bool :=
  !kind.isExpression && kind != .translationUnit

namespace Frontend
variable (fe : Frontend)

def entityAt (c : Cursor) : Except Stop Entity := do
  let facts ← fe.cursor c
  return ⟨facts.entity, facts.spelling, facts.kind⟩

/-- The entities at and below a cursor, in the order in which they are registered. -/
def entitiesFrom (root : Cursor) : Except Stop (List Entity) := do
  let entities ← (← fe.fromRight root).mapM fe.entityAt
  return entities.filter (·.kind.isRegistered)

end Frontend

/-- Registers all entities at and below a cursor. -/
def Registry.insertTree (r : Registry) (fe : Frontend) (root : Cursor) : Except Stop Registry :=
  return r.insertAll (← fe.entitiesFrom root)

end CxxTrees
