import CxxTrees.Frontend.CursorKind

/-!
# Entities

Declarations are known by an id that is stable within a translation unit.
-/

namespace CxxTrees

structure EntityId where
  text : String
deriving DecidableEq

/-- A declaration that was registered under its id. -/
structure Entity where
  id : EntityId
  name : String
  kind : CursorKind
deriving DecidableEq

/-- A declaration that a type names: its id, and how the type spells it. -/
structure DeclRef where
  id : EntityId
  name : String
deriving DecidableEq

/-- One call: who calls what. There is no caller outside of member functions. -/
structure Call where
  caller : Option EntityId
  callerMethod : Option EntityId
  callee : EntityId
  calleeMethod : EntityId
deriving DecidableEq

end CxxTrees
