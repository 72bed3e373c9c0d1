import CxxTrees.Calls.Expression
import CxxTrees.Registry

/-!
# Sessions

Requests to one frontend, answered one after the other. A request that stops
does not end the session: the next finds the state as it was left.
-/

namespace CxxTrees

inductive Request where
  | type (site : Site)
  | expression (scope : CallScope) (c : Cursor)
  | calls (c : Cursor)
deriving DecidableEq

inductive Answer where
  | type (t : Ty)
  | expression (e : Option Expr)
  | calls (list : List Call)

def Frontend.answer (fe : Frontend) (options : Options) : Request → Run Answer
  | .type site => return .type (← fe.typeIn Run site)
  | .expression scope c => return .expression (← fe.expressionAt options scope c)
  | .calls c => return .calls (← fe.callsOf options c)

structure Session where
  frontend : Frontend
  options : Options := {}
  state : RunState := { engine := .ofOptions options }
  registry : Registry := {}

namespace Session

/-- A session in which nothing was asked for yet. -/
def start (fe : Frontend) (options : Options) : Session := { frontend := fe, options }

def graph (s : Session) : CallGraph := s.state.graph

/-- What is recorded of the reports so far. -/
def diagnostics (s : Session) : List Diagnostic := s.state.engine.diagnostics

/-- The answer to a request, or why there is none, and the session after it. -/
def ask (s : Session) (request : Request) : Except Stop Answer × Session :=
  match (s.frontend.answer s.options request).run s.state with
  | .ok answer state => (.ok answer, { s with state })
  | .error stop state => (.error stop, { s with state })

def askAll (s : Session) : List Request → List (Except Stop Answer) × Session
  | [] => ([], s)
  | request :: requests =>
    let first := s.ask request
    let rest := first.2.askAll requests
    (first.1 :: rest.1, rest.2)

/-- Registers the declaration at a cursor. -/
def register (s : Session) (c : Cursor) : Except Stop (Entity × Session) := do
  let e ← s.frontend.entityAt c
  return (e, { s with registry := s.registry.insert e })

/-- Registers the declarations at and below a cursor. -/
def registerTree (s : Session) (root : Cursor) : Except Stop Session :=
  return { s with registry := ← s.registry.insertTree s.frontend root }

/-- The calls recorded of a function, with their ids looked up. -/
def resolvedCalls (s : Session) (f : EntityId) : List ResolvedCall :=
  (s.graph.callsFrom f).map s.registry.resolve

end Session

end CxxTrees
