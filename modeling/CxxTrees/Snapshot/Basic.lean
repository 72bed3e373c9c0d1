import CxxTrees.Frontend.Basic

/-!
# Snapshots

A snapshot holds the two tables of a frontend in memory, as a recorded dump
does. It is built entry by entry, and read as a frontend.
-/

namespace CxxTrees

/-- The recorded state of a type. -/
structure TypeRecord where
  kind : TypeKind
  spelling : String
  /-- Missing for a type that is its own canonical form. -/
  canonical : Option TypeHandle := none
  pointee : Option TypeHandle := none
  element : Option TypeHandle := none
  result : Option TypeHandle := none
  parameters : Option (List TypeHandle) := none
  isVariadic : Bool := false
  arraySize : Option UInt64 := none
  ofClass : Option TypeHandle := none
  declaration : Option Cursor := none
  /-- Arguments that are no types are missing in the list. -/
  arguments : Option (List (Option TypeHandle)) := none

/-- What the record of the type `self` says. -/
def TypeRecord.facts (r : TypeRecord) (self : TypeHandle) : TypeFacts where
  kind := r.kind
  spelling := r.spelling
  canonical := r.canonical.getD self
  pointee := r.pointee
  element := r.element
  result := r.result
  parameterCount := r.parameters.map List.length
  parameter i := r.parameters.bind (·[i]?)
  isVariadic := r.isVariadic
  arraySize := r.arraySize
  ofClass := r.ofClass
  declaration := r.declaration
  argumentCount := r.arguments.map List.length
  argument i := (r.arguments.bind (·[i]?)).join

structure Snapshot where
  cursors : Array CursorFacts := #[]
  types : Array TypeRecord := #[]

namespace Snapshot

def empty : Snapshot := {}

def frontend (s : Snapshot) : Frontend where
  cursorCount := s.cursors.size
  typeCount := s.types.size
  cursor? c := s.cursors[c.index]?
  type? t := s.types[t.index]?.map (·.facts t)
  cursor?_eq_none _ h := Array.getElem?_eq_none h
  type?_eq_none t h := by rw [Array.getElem?_eq_none h]; rfl

/-! ### Overwriting entries

The answer is missing for a handle that is in no table. -/

def updateCursor (s : Snapshot) (c : Cursor) (f : CursorFacts → CursorFacts) : Option Snapshot :=
  if c.index < s.cursors.size then some { s with cursors := s.cursors.modify c.index f } else none

def updateType (s : Snapshot) (t : TypeHandle) (f : TypeRecord → TypeRecord) : Option Snapshot :=
  if t.index < s.types.size then some { s with types := s.types.modify t.index f } else none

def setCursorType (s : Snapshot) (c : Cursor) (type : TypeHandle) : Option Snapshot :=
  s.updateCursor c ({ · with type := some type })

def setReferenced (s : Snapshot) (c referenced : Cursor) : Option Snapshot :=
  s.updateCursor c ({ · with referenced := some referenced })

def setSpecializedTemplate (s : Snapshot) (c template : Cursor) : Option Snapshot :=
  s.updateCursor c ({ · with specializedTemplate := some template })

def setTokens (s : Snapshot) (c : Cursor) (tokens : List String) : Option Snapshot :=
  s.updateCursor c ({ · with tokens })

def setCanonical (s : Snapshot) (t canonical : TypeHandle) : Option Snapshot :=
  s.updateType t ({ · with canonical := some canonical })

def setDeclaration (s : Snapshot) (t : TypeHandle) (declaration : Cursor) : Option Snapshot :=
  s.updateType t ({ · with declaration := some declaration })

def setArguments (s : Snapshot) (t : TypeHandle) (arguments : List (Option TypeHandle)) :
    Option Snapshot :=
  s.updateType t ({ · with arguments := some arguments })

/-! ### Adding entries -/

/-- The id of a cursor: its spelling, told from others by its handle. -/
def cursorId (spelling : String) (c : Cursor) : EntityId :=
  ⟨"c:@" ++ spelling ++ "#" ++ toString c.number⟩

/-- Adds a cursor, as the last child of `parent`. -/
def addCursor (s : Snapshot) (kind : CursorKind) (spelling : String) (parent : Option Cursor) :
    Option (Snapshot × Cursor) :=
  let c : Cursor := .afterCount s.cursors.size
  let facts : CursorFacts :=
    { kind, spelling, entity := cursorId spelling c, semanticParent := parent }
  let s := { s with cursors := s.cursors.push facts }
  match parent with
  | none => some (s, c)
  | some parent =>
    (s.updateCursor parent fun facts => { facts with children := facts.children ++ [c] }).map (·, c)

def addRecord (s : Snapshot) (r : TypeRecord) : Snapshot × TypeHandle :=
  ({ s with types := s.types.push r }, .afterCount s.types.size)

def addType (s : Snapshot) (kind : TypeKind) (spelling : String) : Snapshot × TypeHandle :=
  s.addRecord { kind, spelling }

def addPointer (s : Snapshot) (pointee : TypeHandle) (spelling : String) : Snapshot × TypeHandle :=
  s.addRecord { kind := .pointer, spelling, pointee := some pointee }

def addReference (s : Snapshot) (referee : TypeHandle) (isRvalue : Bool) (spelling : String) :
    Snapshot × TypeHandle :=
  let kind := if isRvalue then .rvalueReference else .lvalueReference
  s.addRecord { kind, spelling, pointee := some referee }

def addArray (s : Snapshot) (kind : TypeKind) (element : TypeHandle) (size : Option UInt64)
    (spelling : String) : Snapshot × TypeHandle :=
  s.addRecord { kind, spelling, element := some element, arraySize := size }

def addFunction (s : Snapshot) (result : TypeHandle) (parameters : List TypeHandle)
    (isVariadic : Bool) (spelling : String) : Snapshot × TypeHandle :=
  s.addRecord
    { kind := .functionProto, spelling, result := some result, parameters := some parameters,
      isVariadic }

end Snapshot

end CxxTrees
