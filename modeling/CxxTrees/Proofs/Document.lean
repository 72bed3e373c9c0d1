import Mathlib.Data.List.Forall2
import CxxTrees.Document

/-!
# Documents that are read and written again

A format says in what a document may differ from the one that is written of what was read of
it: an object is written with the fields of its format alone and in their order, and with
null for an optional one that is missing. `Reads` says of a reader and a writer that one
undoes the other, and that the other keeps to a format.
-/

namespace CxxTrees

/-- What a document and the one that is written again have in common. -/
abbrev Format := Document → Document → Prop

namespace Format

structure Field where
  name : String
  isOptional : Bool
  format : Format

def exact : Format := Eq

def optional (f : Format) : Format := fun d e => d = .null ∧ e = .null ∨ f d e

def list (f : Format) : Format := fun d e =>
  ∃ items written, d = .list items ∧ e = .list written ∧ List.Forall₂ f items written

def Field.needs (name : String) (f : Format) : Field := ⟨name, false, f⟩

def Field.admits (name : String) (f : Format) : Field := ⟨name, true, f.optional⟩

/-- The field is written as it was, or as null where it is optional and was missing. -/
def Field.Kept (field : Field) (fields written : List (String × Document)) : Prop :=
  match fields.lookup field.name with
  | none => field.isOptional = true ∧ written.lookup field.name = some .null
  | some d => ∃ e, written.lookup field.name = some e ∧ field.format d e

def object (format : List Field) : Format := fun d e =>
  ∃ fields written, d = .object fields ∧ e = .object written ∧
    written.map Prod.fst = format.map Field.name ∧ ∀ field ∈ format, field.Kept fields written

end Format

namespace Document

/-- What is written is read as it was, and what is read is written in a format. -/
structure Reads (format : Format) (read : Document → Option α) (write : α → Document) : Prop where
  back : ∀ a, read (write a) = some a
  again : ∀ d a, read d = some a → format d (write a)

variable {format : Format} {read : Document → Option α} {write : α → Document}

/-! ### Values -/

theorem reads_text : Reads .exact text? .text where
  back _ := rfl
  again d s h := by
    cases d <;> cases h
    rfl

theorem reads_bool : Reads .exact bool? .bool where
  back _ := rfl
  again d b h := by
    cases d <;> cases h
    rfl

theorem nat?_ofNat {n bound : Nat} (h : n < bound) : (ofNat n).nat? bound = some n := if_pos h

theorem nat?_eq_some {d : Document} {n bound : Nat} (h : d.nat? bound = some n) :
    d = ofNat n ∧ n < bound := by
  unfold nat? at h
  split at h
  · split at h
    · cases h
      exact ⟨rfl, ‹_›⟩
    · cases h
  · cases h

theorem reads_number {number : Type} {bound : Nat} {toNat : number → Nat} {fromNat : Nat → number}
    (fits : ∀ n, toNat n < bound) (same : ∀ n, fromNat (toNat n) = n)
    (value : ∀ {n}, n < bound → toNat (fromNat n) = n) :
    Reads .exact (fun d => (d.nat? bound).map fromNat) (fun n => ofNat (toNat n)) where
  back n := by
    rw [nat?_ofNat (fits n), Option.map_some, same]
  again d n found := by
    obtain ⟨k, isNat, rfl⟩ := Option.map_eq_some_iff.mp found
    obtain ⟨rfl, bound⟩ := nat?_eq_some isNat
    rw [value bound]
    rfl

/-! ### Parts that may be missing, and lists -/

theorem again_optional {d : Document} {a : Option α} (reads : Reads format read write)
    (found : d.optional? read = some a) : format.optional d (ofOption write a) := by
  unfold optional? at found
  split at found
  · cases found
    exact .inl ⟨rfl, rfl⟩
  · obtain ⟨a, present, rfl⟩ := Option.map_eq_some_iff.mp found
    exact .inr (reads.again d a present)

theorem reads_optional (reads : Reads format read write) (visible : ∀ a, write a ≠ .null) :
    Reads format.optional (optional? read) (ofOption write) where
  back a := by
    cases a with
    | none => rfl
    | some a =>
      unfold optional? ofOption
      split
      · rename_i null
        exact absurd null (visible a)
      · rw [reads.back]
        rfl
  again _ _ := again_optional reads

theorem again_items {items : List Document} {l : List α} (reads : Reads format read write)
    (found : items.mapM read = some l) : List.Forall₂ format items (l.map write) := by
  induction items generalizing l with
  | nil =>
    cases found
    exact .nil
  | cons d items ih =>
    rw [List.mapM_cons] at found
    obtain ⟨a, first, found⟩ := Option.bind_eq_some_iff.mp found
    obtain ⟨rest, others, found⟩ := Option.bind_eq_some_iff.mp found
    cases found
    exact .cons (reads.again d a first) (ih others)

theorem reads_list (reads : Reads format read write) :
    Reads format.list (list? read) (ofList write) where
  back l := by
    show (l.map write).mapM read = some l
    induction l with
    | nil => rfl
    | cons a l ih =>
      rw [List.map_cons, List.mapM_cons, reads.back, ih]
      rfl
  again d l found := by
    unfold list? at found
    split at found
    · exact ⟨_, l.map write, rfl, rfl, again_items reads found⟩
    · cases found

/-! ### Objects -/

variable {name : String} {fields written : List (String × Document)}

section
variable {β : Type} {b : β} {rest : α → Option β}

theorem field_read {d : Document} {a : α} (stands : fields.lookup name = some d)
    (value : read d = some a) (others : rest a = some b) :
    (field? name (.object fields) >>= fun d => read d >>= rest) = some b := by
  show (read ((fields.lookup name).getD .null)).bind rest = some b
  rw [stands, Option.getD_some, value]
  exact others

theorem read_field
    (found : (field? name (.object fields) >>= fun d => read d >>= rest) = some b) :
    ∃ a, read ((fields.lookup name).getD .null) = some a ∧ rest a = some b :=
  Option.bind_eq_some_iff.mp found

end

theorem object_of_kept {fieldFormats : List Format.Field}
    (names : written.map Prod.fst = fieldFormats.map Format.Field.name)
    (kept : fieldFormats.Forall (·.Kept fields written)) :
    Format.object fieldFormats (.object fields) (.object written) :=
  ⟨fields, written, rfl, rfl, names, List.forall_iff_forall_mem.mp kept⟩

theorem kept_needs {a : α} (reads : Reads format read write) (strict : read .null = none)
    (found : read ((fields.lookup name).getD .null) = some a)
    (new : written.lookup name = some (write a)) :
    (Format.Field.needs name format).Kept fields written := by
  unfold Format.Field.Kept Format.Field.needs
  cases old : fields.lookup name with
  | none =>
    rw [old, Option.getD_none, strict] at found
    cases found
  | some d =>
    rw [old] at found
    exact ⟨write a, new, reads.again d a found⟩

theorem kept_admits {a : Option α} (reads : Reads format read write)
    (found : optional? read ((fields.lookup name).getD .null) = some a)
    (new : written.lookup name = some (ofOption write a)) :
    (Format.Field.admits name format).Kept fields written := by
  unfold Format.Field.Kept Format.Field.admits
  cases old : fields.lookup name with
  | none =>
    rw [old] at found
    cases found
    exact ⟨rfl, new⟩
  | some d =>
    rw [old] at found
    exact ⟨ofOption write a, new, again_optional reads found⟩

end Document

end CxxTrees
