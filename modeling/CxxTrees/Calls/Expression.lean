import CxxTrees.Build.Type
import CxxTrees.Calls.Run
import CxxTrees.Calls.Scope
import CxxTrees.Token.Text

/-!
# Expressions and calls

Expressions are literals, calls, or just tokens. A call is attributed to the
scope it is written in; a call of a free function may lead to the calls in the
body of that function.
-/

namespace CxxTrees

/-- What a call names, and the function whose body it leads to. -/
structure CallTarget where
  callee : EntityId
  method : EntityId
  body : Option Cursor := none
deriving DecidableEq

namespace Frontend
variable (fe : Frontend)

/-- The target of a call: a method and its class, a free function, or for a
function template the first function declared below it. -/
def callTarget (facts : CursorFacts) : Except Stop (Option CallTarget) := do
  match facts.referenced with
  | none => return none
  | some referenced =>
    let target ← fe.cursor referenced
    match target.kind with
    | .cxxMethod =>
      match target.semanticParent with
      | none => return none
      | some ofClass =>
        return some { callee := (← fe.cursor ofClass).entity, method := target.entity }
    | .functionDecl =>
      return some { callee := target.entity, method := target.entity, body := some referenced }
    | .functionTemplate =>
      match ← fe.firstBelow (·.kind == .functionDecl) referenced with
      | none => return none
      | some pattern =>
        let id := (← fe.cursor pattern).entity
        return some { callee := id, method := id }
    | _ => return none

/-- The report that a call has no target. -/
def reportUnresolved (facts : CursorFacts) : Run Unit :=
  Run.emit <| .report {
    source := reportSource
    severity := .debug
    message := "cannot parse call expression: '" ++ facts.kind.name ++ "'"
    location := facts.location }

variable (options : Options)

/-! ### Calls inside of calls

`collect` stands for collecting the calls in the body of another function. -/

def callWith (collect : Cursor → Run Unit) (scope : CallScope) (facts : CursorFacts) :
    Run (Option Call) := do
  match ← fe.callTarget facts with
  | none =>
    reportUnresolved facts
    return none
  | some target =>
    match target.body with
    | none => pure ()
    | some body => if options.followCallees then collect body
    return some (scope.call target.callee target.method)

/-- The expression at a cursor. There is none for a call without a target, and
for one without parentheses, which constructs a default. -/
def expressionWith (collect : Cursor → Run Unit) (scope : CallScope) (c : Cursor) :
    Run (Option Expr) := do
  let facts ← fe.cursor c
  match facts.type with
  | none => Run.fail (.missingCursorType facts.spelling)
  | some type =>
    let type ← fe.typeIn Run ⟨c, type⟩
    if facts.kind.isCallLike then
      if facts.tokens.getLast? ≠ some ")" then return none
      match ← fe.callWith options collect scope facts with
      | none => return none
      | some call => return some (.mk type (.call call))
    else if facts.kind.isLiteral then
      return some (.literal type (Token.toText facts.tokens))
    else return some (.unexposed type facts.tokens)

/-- Records the call at a cursor under `f`, if it is a call expression with a target. -/
def recordWith (collect : Cursor → Run Unit) (scope : CallScope) (f : EntityId) (c : Cursor) :
    Run Unit := do
  if (← fe.cursor c).kind = .callExpr then
    match ← fe.expressionWith options collect scope c with
    | none => pure ()
    | some e =>
      match e.call? with
      | none => pure ()
      | some call => Run.record f call

def visitBelowWithin (visit : Cursor → Run Unit) : (limit : Nat) → Cursor → Run Unit
  | 0, _ => throw .endless
  | limit + 1, c => do
    (← fe.cursor c).children.forM fun child => do
      visit child
      visitBelowWithin visit limit child

/-- Visits all cursors below `c` in source order, each before its children. -/
def visitBelow (visit : Cursor → Run Unit) (c : Cursor) : Run Unit :=
  fe.visitBelowWithin visit fe.descentLimit c

def collectWithin : (limit : Nat) → Cursor → Run Unit
  | 0, _ => throw .endless
  | limit + 1, c => do
    let facts ← fe.cursor c
    if ← Run.reach facts.entity then
      Run.emit (.walking c facts.spelling)
      let scope ← fe.scopeOf c
      fe.visitBelow (fe.recordWith options (collectWithin limit) scope facts.entity) c

/-! ### Requests -/

/-- How many bodies can be walked inside of each other: each under an id of its own. -/
def bodyLimit : Nat := fe.cursorCount + 1

/-- Records the calls in the body of a function. A body is walked only once for
an id, and when it leads back to itself what was recorded so far is left. -/
def collect (c : Cursor) : Run Unit := fe.collectWithin options fe.bodyLimit c

/-- The calls in the body of a function. -/
def callsOf (c : Cursor) : Run (List Call) := do
  fe.collect options c
  return (← get).graph.callsFrom (← fe.cursor c).entity

/-- The expression at a cursor, written in a scope. -/
def expressionAt (scope : CallScope) (c : Cursor) : Run (Option Expr) :=
  fe.expressionWith options (fe.collect options) scope c

end Frontend

end CxxTrees
