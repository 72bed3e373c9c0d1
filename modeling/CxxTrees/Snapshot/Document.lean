import CxxTrees.Document
import CxxTrees.Snapshot.Basic

/-!
# Snapshots as documents

How a snapshot is written to a document and read back. Handles are not checked
against the tables.
-/

namespace CxxTrees
open Document

def Handle.toDocument {table : Table} (h : Handle table) : Document := ofNat h.number

def Handle.ofDocument? {table : Table} (d : Document) : Option (Handle table) :=
  (d.nat? UInt32.size).bind Handle.ofNumber?

def EntityId.toDocument (id : EntityId) : Document := .text id.text

def EntityId.ofDocument? (d : Document) : Option EntityId := d.text?.map EntityId.mk

def Location.toDocument (l : Location) : Document :=
  .object [("file", .text l.file), ("line", ofNat l.line.toNat), ("column", ofNat l.column.toNat)]

def Location.ofDocument? (d : Document) : Option Location := do
  return {
    file := ← (← d.field? "file").text?
    line := .ofNat (← (← d.field? "line").nat? UInt32.size)
    column := .ofNat (← (← d.field? "column").nat? UInt32.size) }

def CursorFacts.toDocument (c : CursorFacts) : Document :=
  .object [
    ("kind", .text c.kind.name),
    ("spelling", .text c.spelling),
    ("entity_id", c.entity.toDocument),
    ("ty", ofOption Handle.toDocument c.type),
    ("semantic_parent", ofOption Handle.toDocument c.semanticParent),
    ("referenced", ofOption Handle.toDocument c.referenced),
    ("specialized_template", ofOption Handle.toDocument c.specializedTemplate),
    ("children", ofList Handle.toDocument c.children),
    ("tokens", ofList .text c.tokens),
    ("location", ofOption Location.toDocument c.location)]

def CursorFacts.ofDocument? (d : Document) : Option CursorFacts := do
  return {
    kind := ← (← d.field? "kind").text?.bind CursorKind.ofName?
    spelling := ← (← d.field? "spelling").text?
    entity := ← EntityId.ofDocument? (← d.field? "entity_id")
    type := ← (← d.field? "ty").optional? Handle.ofDocument?
    semanticParent := ← (← d.field? "semantic_parent").optional? Handle.ofDocument?
    referenced := ← (← d.field? "referenced").optional? Handle.ofDocument?
    specializedTemplate := ← (← d.field? "specialized_template").optional? Handle.ofDocument?
    children := ← (← d.field? "children").list? Handle.ofDocument?
    tokens := ← (← d.field? "tokens").list? text?
    location := ← (← d.field? "location").optional? Location.ofDocument? }

def TypeRecord.toDocument (r : TypeRecord) : Document :=
  .object [
    ("kind", .text r.kind.name),
    ("spelling", .text r.spelling),
    ("canonical", ofOption Handle.toDocument r.canonical),
    ("pointee", ofOption Handle.toDocument r.pointee),
    ("element", ofOption Handle.toDocument r.element),
    ("result", ofOption Handle.toDocument r.result),
    ("args", ofOption (ofList Handle.toDocument) r.parameters),
    ("is_variadic", .bool r.isVariadic),
    ("array_size", ofOption (fun n : UInt64 => ofNat n.toNat) r.arraySize),
    ("class_type", ofOption Handle.toDocument r.ofClass),
    ("declaration", ofOption Handle.toDocument r.declaration),
    ("template_arguments", ofOption (ofList (ofOption Handle.toDocument)) r.arguments)]

def TypeRecord.ofDocument? (d : Document) : Option TypeRecord := do
  return {
    kind := ← (← d.field? "kind").text?.bind TypeKind.ofName?
    spelling := ← (← d.field? "spelling").text?
    canonical := ← (← d.field? "canonical").optional? Handle.ofDocument?
    pointee := ← (← d.field? "pointee").optional? Handle.ofDocument?
    element := ← (← d.field? "element").optional? Handle.ofDocument?
    result := ← (← d.field? "result").optional? Handle.ofDocument?
    parameters := ← (← d.field? "args").optional? (list? Handle.ofDocument?)
    isVariadic := ← (← d.field? "is_variadic").bool?
    arraySize := ← (← d.field? "array_size").optional? fun n => (n.nat? UInt64.size).map UInt64.ofNat
    ofClass := ← (← d.field? "class_type").optional? Handle.ofDocument?
    declaration := ← (← d.field? "declaration").optional? Handle.ofDocument?
    arguments := ←
      (← d.field? "template_arguments").optional? (list? (optional? Handle.ofDocument?)) }

def Snapshot.toDocument (s : Snapshot) : Document :=
  .object [
    ("cursors", ofList CursorFacts.toDocument s.cursors.toList),
    ("types", ofList TypeRecord.toDocument s.types.toList)]

def Snapshot.ofDocument? (d : Document) : Option Snapshot := do
  return {
    cursors := (← (← d.field? "cursors").list? CursorFacts.ofDocument?).toArray
    types := (← (← d.field? "types").list? TypeRecord.ofDocument?).toArray }

end CxxTrees
