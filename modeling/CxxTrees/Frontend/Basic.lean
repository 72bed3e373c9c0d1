import CxxTrees.Entity
import CxxTrees.Fault
import CxxTrees.Frontend.TypeKind
import CxxTrees.Handle

/-!
# Frontends

A frontend answers questions about the cursors and types in its two tables.
Handles are meaningful only for the frontend that gave them out, and asking
about one that is in no table ends a run.
-/

namespace CxxTrees

/-- A source position, for reports only. -/
structure Location where
  file : String
  line : UInt32
  column : UInt32
deriving DecidableEq

def Location.display (l : Location) : String :=
  l.file ++ ":" ++ toString l.line.toNat ++ ":" ++ toString l.column.toNat

/-- What a frontend says of a cursor. -/
structure CursorFacts where
  kind : CursorKind
  spelling : String
  entity : EntityId
  type : Option TypeHandle := none
  semanticParent : Option Cursor := none
  /-- The declaration that an expression refers to. -/
  referenced : Option Cursor := none
  /-- The primary template of a specialization. -/
  specializedTemplate : Option Cursor := none
  /-- Direct children in source order. -/
  children : List Cursor := []
  tokens : List String := []
  location : Option Location := none

/-- What a frontend says of a type. Counts are missing for types that are not
functions, or not specializations. -/
structure TypeFacts where
  kind : TypeKind
  spelling : String
  /-- The fully desugared form; the type itself where it is canonical already. -/
  canonical : TypeHandle
  pointee : Option TypeHandle
  element : Option TypeHandle
  result : Option TypeHandle
  parameterCount : Option Nat
  parameter : Nat → Option TypeHandle
  isVariadic : Bool
  /-- The extent of an array, unless it is incomplete or dependent. -/
  arraySize : Option UInt64
  /-- The class of a member pointer. -/
  ofClass : Option TypeHandle
  declaration : Option Cursor
  argumentCount : Option Nat
  /-- A template argument that is a type. -/
  argument : Nat → Option TypeHandle

/-- Two tables of finite length, looked up by handle. -/
structure Frontend where
  cursorCount : Nat
  typeCount : Nat
  cursor? : Cursor → Option CursorFacts
  type? : TypeHandle → Option TypeFacts
  cursor?_eq_none : ∀ c : Cursor, cursorCount ≤ c.index → cursor? c = none
  type?_eq_none : ∀ t : TypeHandle, typeCount ≤ t.index → type? t = none

namespace Frontend
variable (fe : Frontend)

def cursor (c : Cursor) : Except Stop CursorFacts :=
  match fe.cursor? c with
  | some facts => .ok facts
  | none => .error .outsideTable

def type (t : TypeHandle) : Except Stop TypeFacts :=
  match fe.type? t with
  | some facts => .ok facts
  | none => .error .outsideTable

/-- The steps that a climb along semantic parents can make before it repeats itself. -/
def climbLimit : Nat := fe.cursorCount + 1

def templateAroundWithin : Nat → Cursor → Except Stop (Option Cursor)
  | 0, _ => .error .endless
  | limit + 1, c => do
    let facts ← fe.cursor c
    if facts.kind.isDirectlyTemplated then return some c
    match facts.semanticParent with
    | none => return none
    | some parent =>
      if (← fe.cursor parent).kind.isScopeBoundary then return none
      templateAroundWithin limit parent

/-- The nearest directly templated declaration, `c` itself to begin with, below
the first namespace or translation unit. -/
def templateAround (c : Cursor) : Except Stop (Option Cursor) :=
  fe.templateAroundWithin fe.climbLimit c

/-! ### Walks on a stack -/

/-- Puts cursors on a stack, one on top of the other. The top is the head of the list. -/
def pushAll (stack cs : List Cursor) : List Cursor := cs.foldl (fun stack c => c :: stack) stack

/-- Whatever is a child of a cursor in the table, as often as it is one. -/
def allChildren : List Cursor :=
  (List.range fe.cursorCount).flatMap fun i => (fe.cursor? (.afterCount i)).elim [] (·.children)

/-- The cursors that a walk can take off its stack before it repeats itself: at most one for
each path along children. -/
def walkLimit : Nat := Nat.pow (fe.allChildren.length + 1) fe.cursorCount

/-- Takes cursors off the stack until one has `p`. The children of any other are put there
instead of it, the first one on top. -/
def firstOnStack (p : CursorFacts → Bool) : (limit : Nat) → (stack : List Cursor) →
    Except Stop (Option Cursor)
  | _, [] => return none
  | 0, _ :: _ => throw .endless
  | limit + 1, c :: stack => do
    let facts ← fe.cursor c
    if p facts then return some c
    firstOnStack p limit (pushAll stack facts.children.reverse)

/-- The first cursor with `p` below `c`, in source order. -/
def firstBelow (p : CursorFacts → Bool) (c : Cursor) : Except Stop (Option Cursor) := do
  fe.firstOnStack p fe.walkLimit (pushAll [] (← fe.cursor c).children.reverse)

/-! ### Descents -/

/-- The depth that a descent along children can reach before it repeats itself. -/
def descentLimit : Nat := fe.cursorCount + 1

def fromRightWithin : Nat → Cursor → Except Stop (List Cursor)
  | 0, _ => .error .endless
  | limit + 1, c => do
    let below ← (← fe.cursor c).children.reverse.mapM (fromRightWithin limit)
    return c :: below.flatten

/-- The cursors at and below `c`, each before its children, the last child first. -/
def fromRight (c : Cursor) : Except Stop (List Cursor) :=
  fe.fromRightWithin fe.descentLimit c

end Frontend

end CxxTrees
