import CxxTrees.Proofs.Document
import CxxTrees.Snapshot.Document

/-!
# Snapshots that are read back

A snapshot comes back from its document as it was. A document that is read as a snapshot is
written again in `Snapshot.format`: the same but for the order of fields, for fields that no
record has, and for optional ones that are missing and become null.
-/

namespace CxxTrees
open Document

/-! ### Values of fields -/

theorem reads_handle {table : Table} :
    Reads .exact (Handle.ofDocument? : Document → Option (Handle table)) Handle.toDocument where
  back h := by
    rw [Handle.ofDocument?, Handle.toDocument, nat?_ofNat h.fits]
    exact Handle.ofNumber?_eq_some.mpr rfl
  again d h found := by
    obtain ⟨n, number, found⟩ := Option.bind_eq_some_iff.mp found
    rw [(nat?_eq_some number).1, Handle.toDocument, Handle.ofNumber?_eq_some.mp found]
    rfl

theorem reads_link {table : Table} :
    Reads (.optional .exact) (optional? (Handle.ofDocument? : Document → Option (Handle table)))
      (ofOption Handle.toDocument) := reads_optional reads_handle nofun

theorem reads_links {table : Table} :
    Reads (.list .exact) (list? (Handle.ofDocument? : Document → Option (Handle table)))
      (ofList Handle.toDocument) := reads_list reads_handle

theorem reads_entity : Reads .exact EntityId.ofDocument? EntityId.toDocument where
  back _ := rfl
  again d id found := by
    obtain ⟨text, isText, rfl⟩ := Option.map_eq_some_iff.mp found
    exact reads_text.again d text isText

/-- Kinds are read by their names. -/
theorem reads_kind {kind : Type} {name : kind → String} {all : List kind}
    (known : ∀ k, all.find? (name · == name k) = some k) :
    Reads .exact (fun d => d.text?.bind fun text => all.find? (name · == text))
      (fun k => .text (name k)) where
  back := known
  again d k found := by
    obtain ⟨text, isText, found⟩ := Option.bind_eq_some_iff.mp found
    have named : (name k == text) = true := List.find?_some (p := (name · == text)) found
    rw [eq_of_beq named]
    exact reads_text.again d text isText

/-! ### Records -/

def Location.format : Format :=
  .object [.needs "file" .exact, .needs "line" .exact, .needs "column" .exact]

theorem Location.ofDocument?_toDocument (l : Location) :
    Location.ofDocument? l.toDocument = some l := by
  refine field_read rfl (reads_text.back l.file) ?_
  refine field_read rfl (nat?_ofNat l.line.toNat_lt) ?_
  refine field_read rfl (nat?_ofNat l.column.toNat_lt) ?_
  show some (Location.mk l.file (.ofNat l.line.toNat) (.ofNat l.column.toNat)) = some l
  rw [UInt32.ofNat_toNat, UInt32.ofNat_toNat]

theorem reads_position : Reads .exact (fun d => (d.nat? UInt32.size).map UInt32.ofNat)
    (fun n : UInt32 => ofNat n.toNat) :=
  reads_number UInt32.toNat_lt (fun _ => UInt32.ofNat_toNat) UInt32.toNat_ofNat_of_lt'

theorem reads_size : Reads .exact (fun d => (d.nat? UInt64.size).map UInt64.ofNat)
    (fun n : UInt64 => ofNat n.toNat) :=
  reads_number UInt64.toNat_lt (fun _ => UInt64.ofNat_toNat) UInt64.toNat_ofNat_of_lt'

theorem reads_location : Reads Location.format Location.ofDocument? Location.toDocument where
  back := Location.ofDocument?_toDocument
  again d l found := by
    cases d with
    | object fields =>
      obtain ⟨file, isFile, found⟩ := read_field found
      obtain ⟨line, isLine, found⟩ := read_field found
      obtain ⟨column, isColumn, found⟩ := read_field found
      cases found
      exact object_of_kept rfl ⟨kept_needs reads_text rfl isFile rfl,
        kept_needs reads_position rfl (Option.map_eq_some_iff.mpr ⟨line, isLine, rfl⟩) rfl,
        kept_needs reads_position rfl (Option.map_eq_some_iff.mpr ⟨column, isColumn, rfl⟩) rfl⟩
    | _ => cases found

def CursorFacts.format : Format :=
  .object [
    .needs "kind" .exact, .needs "spelling" .exact, .needs "entity_id" .exact,
    .admits "ty" .exact, .admits "semantic_parent" .exact, .admits "referenced" .exact,
    .admits "specialized_template" .exact, .needs "children" (.list .exact),
    .needs "tokens" (.list .exact), .admits "location" Location.format]

theorem CursorFacts.ofDocument?_toDocument (c : CursorFacts) :
    CursorFacts.ofDocument? c.toDocument = some c := by
  refine field_read rfl (CursorKind.ofName?_name c.kind) ?_
  refine field_read rfl (reads_text.back c.spelling) ?_
  refine field_read rfl (reads_entity.back c.entity) ?_
  refine field_read rfl (reads_link.back c.type) ?_
  refine field_read rfl (reads_link.back c.semanticParent) ?_
  refine field_read rfl (reads_link.back c.referenced) ?_
  refine field_read rfl (reads_link.back c.specializedTemplate) ?_
  refine field_read rfl (reads_links.back c.children) ?_
  refine field_read rfl ((reads_list reads_text).back c.tokens) ?_
  refine field_read rfl ((reads_optional reads_location nofun).back c.location) ?_
  rfl

theorem reads_cursor : Reads CursorFacts.format CursorFacts.ofDocument? CursorFacts.toDocument where
  back := CursorFacts.ofDocument?_toDocument
  again d c found := by
    cases d with
    | object fields =>
      obtain ⟨kind, isKind, found⟩ := read_field found
      obtain ⟨spelling, isSpelling, found⟩ := read_field found
      obtain ⟨entity, isEntity, found⟩ := read_field found
      obtain ⟨type, isType, found⟩ := read_field found
      obtain ⟨parent, isParent, found⟩ := read_field found
      obtain ⟨referenced, isReferenced, found⟩ := read_field found
      obtain ⟨template, isTemplate, found⟩ := read_field found
      obtain ⟨children, areChildren, found⟩ := read_field found
      obtain ⟨tokens, areTokens, found⟩ := read_field found
      obtain ⟨location, isLocation, found⟩ := read_field found
      cases found
      exact object_of_kept rfl ⟨kept_needs (reads_kind CursorKind.ofName?_name) rfl isKind rfl,
        kept_needs reads_text rfl isSpelling rfl, kept_needs reads_entity rfl isEntity rfl,
        kept_admits reads_handle isType rfl, kept_admits reads_handle isParent rfl,
        kept_admits reads_handle isReferenced rfl, kept_admits reads_handle isTemplate rfl,
        kept_needs reads_links rfl areChildren rfl,
        kept_needs (reads_list reads_text) rfl areTokens rfl,
        kept_admits reads_location isLocation rfl⟩
    | _ => cases found

def TypeRecord.format : Format :=
  .object [
    .needs "kind" .exact, .needs "spelling" .exact, .admits "canonical" .exact,
    .admits "pointee" .exact, .admits "element" .exact, .admits "result" .exact,
    .admits "args" (.list .exact), .needs "is_variadic" .exact, .admits "array_size" .exact,
    .admits "class_type" .exact, .admits "declaration" .exact,
    .admits "template_arguments" (.list (.optional .exact))]

theorem TypeRecord.ofDocument?_toDocument (r : TypeRecord) :
    TypeRecord.ofDocument? r.toDocument = some r := by
  have parameters := reads_optional (@reads_links .types) nofun
  have arguments := reads_optional (reads_list (@reads_link .types)) nofun
  refine field_read rfl (TypeKind.ofName?_name r.kind) ?_
  refine field_read rfl (reads_text.back r.spelling) ?_
  refine field_read rfl (reads_link.back r.canonical) ?_
  refine field_read rfl (reads_link.back r.pointee) ?_
  refine field_read rfl (reads_link.back r.element) ?_
  refine field_read rfl (reads_link.back r.result) ?_
  refine field_read rfl (parameters.back r.parameters) ?_
  refine field_read rfl (reads_bool.back r.isVariadic) ?_
  refine field_read rfl ((reads_optional reads_size nofun).back r.arraySize) ?_
  refine field_read rfl (reads_link.back r.ofClass) ?_
  refine field_read rfl (reads_link.back r.declaration) ?_
  refine field_read rfl (arguments.back r.arguments) ?_
  rfl

theorem reads_record : Reads TypeRecord.format TypeRecord.ofDocument? TypeRecord.toDocument where
  back := TypeRecord.ofDocument?_toDocument
  again d r found := by
    cases d with
    | object fields =>
      obtain ⟨kind, isKind, found⟩ := read_field found
      obtain ⟨spelling, isSpelling, found⟩ := read_field found
      obtain ⟨canonical, isCanonical, found⟩ := read_field found
      obtain ⟨pointee, isPointee, found⟩ := read_field found
      obtain ⟨element, isElement, found⟩ := read_field found
      obtain ⟨result, isResult, found⟩ := read_field found
      obtain ⟨parameters, areParameters, found⟩ := read_field found
      obtain ⟨variadic, isVariadic, found⟩ := read_field found
      obtain ⟨size, isSize, found⟩ := read_field found
      obtain ⟨ofClass, isClass, found⟩ := read_field found
      obtain ⟨declaration, isDeclaration, found⟩ := read_field found
      obtain ⟨arguments, areArguments, found⟩ := read_field found
      cases found
      exact object_of_kept rfl ⟨kept_needs (reads_kind TypeKind.ofName?_name) rfl isKind rfl,
        kept_needs reads_text rfl isSpelling rfl, kept_admits reads_handle isCanonical rfl,
        kept_admits reads_handle isPointee rfl, kept_admits reads_handle isElement rfl,
        kept_admits reads_handle isResult rfl, kept_admits reads_links areParameters rfl,
        kept_needs reads_bool rfl isVariadic rfl, kept_admits reads_size isSize rfl,
        kept_admits reads_handle isClass rfl, kept_admits reads_handle isDeclaration rfl,
        kept_admits (reads_list reads_link) areArguments rfl⟩
    | _ => cases found

/-! ### Snapshots -/

namespace Snapshot

def format : Format :=
  .object [.needs "cursors" (.list CursorFacts.format), .needs "types" (.list TypeRecord.format)]

theorem ofDocument?_toDocument (s : Snapshot) : ofDocument? s.toDocument = some s := by
  refine field_read rfl ((reads_list reads_cursor).back s.cursors.toList) ?_
  refine field_read rfl ((reads_list reads_record).back s.types.toList) ?_
  rfl

theorem format_of_read {d : Document} {s : Snapshot} (found : ofDocument? d = some s) :
    format d s.toDocument := by
  cases d with
  | object fields =>
    obtain ⟨cursors, areCursors, found⟩ := read_field found
    obtain ⟨types, areTypes, found⟩ := read_field found
    cases found
    exact object_of_kept rfl ⟨kept_needs (reads_list reads_cursor) rfl areCursors rfl,
      kept_needs (reads_list reads_record) rfl areTypes rfl⟩
  | _ => cases found

/-- Every snapshot is read back as it was written, and every document that is read is written
again as it was, but for what its format leaves open. -/
theorem reads_snapshot :
    (∀ s : Snapshot, ofDocument? s.toDocument = some s) ∧
      ∀ (d : Document) (s : Snapshot), ofDocument? d = some s → format d s.toDocument :=
  ⟨ofDocument?_toDocument, fun _ _ => format_of_read⟩

/-- A dump that leaves out what is missing, and has a field of its own in front. -/
def terseDump : Document :=
  .object [
    ("recorded_by", .text "clang"),
    ("types", .list [.object [
      ("template_arguments", .list [.number 1, .null]),
      ("array_size", .number 18446744073709551615),
      ("is_variadic", .bool false),
      ("kind", .text "ConstantArray"),
      ("spelling", .text "T[18446744073709551615]")]]),
    ("cursors", .list [.object [
      ("kind", .text "FieldDecl"), ("spelling", .text "größe"), ("entity_id", .text "c:@größe#1"),
      ("semantic_parent", .number 4294967295), ("children", .list []),
      ("tokens", .list [.text "größe", .text ";"])]])]

def terseSnapshot : Snapshot where
  cursors := #[{
    kind := .fieldDecl, spelling := "größe", entity := ⟨"c:@größe#1"⟩,
    semanticParent := some ⟨4294967295, by decide, by decide⟩, tokens := ["größe", ";"] }]
  types := #[{
    kind := .constantArray, spelling := "T[18446744073709551615]",
    arraySize := some 18446744073709551615, arguments := some [some (.afterCount 0), none] }]

theorem reads_terseDump :
    ofDocument? terseDump = some terseSnapshot ∧ format terseDump terseSnapshot.toDocument := by
  have read : ofDocument? terseDump = some terseSnapshot := rfl
  exact ⟨read, reads_snapshot.2 terseDump terseSnapshot read⟩

end Snapshot

end CxxTrees
