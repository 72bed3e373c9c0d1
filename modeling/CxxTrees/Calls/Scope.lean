import CxxTrees.Frontend.Basic

/-!
# Call scopes

Where a call is written decides whom it is attributed to.
-/

namespace CxxTrees

/-- The member function that a call is written in, and its class. -/
structure CallScope where
  function : Option EntityId := none
  ofClass : Option EntityId := none
deriving DecidableEq

namespace CallScope

/-- Whom a call is attributed to: the class if there is one. -/
def caller (scope : CallScope) : Option EntityId := scope.ofClass.or scope.function

def call (scope : CallScope) (callee method : EntityId) : Call where
  caller := scope.caller
  callerMethod := scope.function
  callee := callee
  calleeMethod := method

end CallScope

namespace Frontend
variable (fe : Frontend)

/-- The record that a cursor is declared in. -/
def recordAround (c : Cursor) : Except Stop (Option Cursor) := do
  match (← fe.cursor c).semanticParent with
  | none => return none
  | some parent => return if (← fe.cursor parent).kind.isRecord then some parent else none

/-- The scope of calls in the body of `c`. A member function sees itself and
its class, and so does a function template declared in a class; any other
function sees nothing. -/
def scopeOf (c : Cursor) : Except Stop CallScope := do
  let facts ← fe.cursor c
  let record ← fe.recordAround c
  if facts.kind.isMemberFunction ∨ (facts.kind = .functionTemplate ∧ record.isSome) then
    match record with
    | none => return { function := some facts.entity }
    | some record =>
      return { function := some facts.entity, ofClass := some (← fe.cursor record).entity }
  else return {}

end Frontend

end CxxTrees
