import CxxTrees.Proofs.Build.Parts
import CxxTrees.Proofs.Outcome
import CxxTrees.Proofs.Spelling.Written
import CxxTrees.Proofs.Tree.Qualified
import CxxTrees.Snapshot.Basic

/-!
# Qualifiers of pointers

The qualifiers of a pointer stand behind its asterisk. For a pointer to an object they end the
spelling, where they are looked for. For one to a function or an array, as in `void (*const)(int)`,
parameters or bounds follow, and no qualifiers are found (`pointerCv_iff`).
-/

namespace CxxTrees

/-- What may stand behind the parentheses around a pointer: the brackets of the function or the
array that it points to, and parentheses of declarators around these. -/
inductive TailPart where
  | parameters (text : List Char)
  | bound (text : List Char)
  | closing

namespace TailPart

def text : TailPart → List Char
  | parameters text => '(' :: (text ++ [')'])
  | bound text => '[' :: (text ++ [']'])
  | closing => [')']

theorem exists_concat (part : TailPart) :
    ∃ front c, part.text = front ++ [c] ∧ (c = ')' ∨ c = ']') := by
  cases part with
  | parameters text => exact ⟨'(' :: text, ')', rfl, .inl rfl⟩
  | bound text => exact ⟨'[' :: text, ']', rfl, .inr rfl⟩
  | closing => exact ⟨[], ')', rfl, .inl rfl⟩

/-- Parts, one or more of them, end with a bracket. -/
theorem exists_flatMap_concat {parts : List TailPart} (some_ : parts ≠ []) :
    ∃ front c, parts.flatMap text = front ++ [c] ∧ (c = ')' ∨ c = ']') := by
  obtain ⟨front, c, last, bracket⟩ := (parts.getLast some_).exists_concat
  refine ⟨parts.dropLast.flatMap text ++ front, c, ?_, bracket⟩
  rw [← List.dropLast_concat_getLast some_, List.flatMap_append, List.flatMap_singleton, last,
    List.dropLast_concat, List.append_assoc]

end TailPart

/-- A pointer as it is spelled, with qualifiers of its own behind the asterisk. If something stands
behind these, there are parentheses around the two. -/
structure PointerText where
  front : List Char
  pad : Blanks
  cv : CvText
  behind : Option (List TailPart)

namespace PointerText
open Text Spelling
variable (written : PointerText)

def text : List Char :=
  match written.behind with
  | none => written.front ++ '*' :: written.cv.behind written.pad.text
  | some tail => written.front ++ '(' :: '*' ::
    (written.cv.behind written.pad.text ++ (TailPart.closing :: tail).flatMap TailPart.text)

/-- The qualifiers that end the spelling. -/
def found : Cv :=
  match written.behind with
  | none => written.cv.cv
  | some _ => Cv.none

theorem trailingCv_text : (trailingCv written.text).1 = written.found := by
  unfold text found
  cases written.behind with
  | none =>
    simp only
    rw [trailingCv_sign (by decide) rfl, trailingCv_alone written.cv written.pad.blank]
  | some tail =>
    simp only
    obtain ⟨front, c, ends, bracket⟩ :=
      TailPart.exists_flatMap_concat (List.cons_ne_nil .closing tail)
    rw [ends, trailingCv_sign (by decide) rfl, ← List.append_assoc, ← List.cons_append]
    rcases bracket with rfl | rfl <;> rw [trailingCv_concat (by decide) rfl]

theorem found_eq_iff :
    written.found = written.cv.cv ↔ written.behind = none ∨ written.cv = .none := by
  unfold found
  cases written.behind with
  | none => exact iff_of_true rfl (.inl rfl)
  | some tail =>
    rw [eq_comm, CvText.cv_eq_none]
    simp

end PointerText

namespace Frontend
open Text Spelling
variable {fe : Frontend} {site : Site} {facts : TypeFacts} {written : PointerText} {pointee : Ty}

/-- A pointer whose pointee is built, and whose canonical form is too if that is another type. -/
structure SpelledAsPointer (fe : Frontend) (site : Site) (facts : TypeFacts) (pointee : Ty)
    (written : PointerText) : Prop where
  known : fe.type? site.type = some facts
  pointer : facts.kind = .pointer
  spelled : facts.spelling = String.ofList written.text
  built : (fe.pointeeAt fe.partBuilder site).outcome = .ok pointee
  canonical : facts.canonical = site.type ∨ ∃ canonical,
    (fe.required fe.typeBuilder ⟨site.cursor, facts.canonical⟩).outcome = .ok canonical

namespace SpelledAsPointer
variable (spelled : fe.SpelledAsPointer site facts pointee written)
include spelled

theorem required_pointer : (fe.required fe.typeBuilder site).outcome =
    .ok ((Ty.ofNode (.pointer pointee)).qualify written.found) := by
  have text : fe.spellingAt site = .ok written.text :=
    spellingAt_of_text spelled.known (by rw [spelled.pointer]; nofun) spelled.spelled
  have node : (fe.nodeAt fe.partBuilder site).outcome =
      .ok (some ((Ty.ofNode (.pointer pointee)).qualify written.found)) := by
    unfold nodeAt
    rw [lift_bind_of_ok (type_of_known spelled.known)]
    simp only [spelled.pointer, TypeKind.builtin?]
    rw [Build.outcome_bind, spelled.built]
    show ((liftM (fe.spellingAt site) >>= _ : Build (Option Ty))).outcome = _
    rw [lift_bind_of_ok text, written.trailingCv_text]
    rfl
  rw [required, typeBuilder_node, Build.outcome_bind, node]
  rfl

/-- What is built is a pointer, in those qualifiers that end its spelling. -/
theorem typeAt_pointer : ∃ canonical, (fe.typeAt site).outcome =
    .ok (.mk ((Ty.ofNode (.pointer pointee)).qualify written.found).node (some canonical)) := by
  let declared := (Ty.ofNode (.pointer pointee)).qualify written.found
  have kind : declared.nodeClass ≠ .instantiation ∧ declared.nodeClass ≠ .userDefined := by
    rcases Ty.nodeClass_qualify (.pointer pointee) written.found with kind | kind <;>
      exact ⟨by rw [kind]; nofun, by rw [kind]; nofun⟩
  exact exists_typeAt spelled.known spelled.required_pointer Ty.canonical_qualify kind
    spelled.canonical

end SpelledAsPointer

/-- A pointer to a function or an array is built without its own qualifiers, and so as it is spelled
exactly if it has none. -/
theorem pointerCv_iff (spelled : fe.SpelledAsPointer site facts pointee written) :
    ((∃ t, (fe.typeAt site).outcome = .ok t ∧
        t.node = ((Ty.ofNode (.pointer pointee)).wrapped written.cv.cv).node) ↔
      written.behind = none ∨ written.cv = .none) ∧
    ∃ t, (fe.typeAt site).outcome = .ok t ∧
      t.node = ((Ty.ofNode (.pointer pointee)).wrapped
        (if written.behind.isSome then Cv.none else written.cv.cv)).node := by
  obtain ⟨canonical, built⟩ := spelled.typeAt_pointer
  simp only [← Ty.qualify_eq]
  refine ⟨?_, _, built, ?_⟩
  · rw [← written.found_eq_iff]
    constructor
    · rintro ⟨t, built', node⟩
      cases built.symm.trans built'
      exact Ty.qualify_inj (by nofun) (by nofun) node
    · intro same
      exact ⟨_, built, by rw [← same]; rfl⟩
  · unfold PointerText.found
    cases written.behind <;> rfl

/-- Pointers with qualifiers: to an integer, to an array, and to a function. -/
def constants : Snapshot where
  cursors := #[{ kind := .varDecl, spelling := "p", entity := ⟨"p"⟩ }]
  types := #[
    { kind := .int, spelling := "int" },
    { kind := .void, spelling := "void" },
    { kind := .constantArray, spelling := "int[3]", element := some (.afterCount 0),
      arraySize := some 3 },
    { kind := .functionProto, spelling := "void (int)", result := some (.afterCount 1),
      parameters := some [.afterCount 0] },
    { kind := .pointer, spelling := "int *const volatile", pointee := some (.afterCount 0) },
    { kind := .pointer, spelling := "int (*const)[3]", pointee := some (.afterCount 2) },
    { kind := .pointer, spelling := "void (*const)(int)", pointee := some (.afterCount 3) }]

def objectPointer : PointerText :=
  ⟨"int ".toList, .none, .both .const .space, none⟩

def arrayPointer : PointerText :=
  ⟨"int ".toList, .none, .one .const, some [.bound ['3']]⟩

def functionPointer : PointerText :=
  ⟨"void ".toList, .none, .one .const, some [.parameters "int".toList]⟩

/-- What the pointer to a function points to. -/
def handler : Ty := .ofNode (.function (.ofBuiltin .void) [.ofBuiltin .int] false)

theorem spelledAsPointer_object : ∃ facts, constants.frontend.SpelledAsPointer
    ⟨.afterCount 0, .afterCount 4⟩ facts (.ofBuiltin .int) objectPointer :=
  ⟨_, {
    known := rfl
    pointer := rfl
    spelled := rfl
    built := rfl
    canonical := .inl rfl }⟩

theorem spelledAsPointer_array : ∃ facts row, constants.frontend.SpelledAsPointer
    ⟨.afterCount 0, .afterCount 5⟩ facts row arrayPointer :=
  ⟨_, _, {
    known := rfl
    pointer := rfl
    spelled := rfl
    built := rfl
    canonical := .inl rfl }⟩

theorem spelledAsPointer_function : ∃ facts, constants.frontend.SpelledAsPointer
    ⟨.afterCount 0, .afterCount 6⟩ facts handler functionPointer :=
  ⟨_, {
    known := rfl
    pointer := rfl
    spelled := rfl
    built := rfl
    canonical := .inl rfl }⟩

theorem pointerCv_iff_constants :
    (∃ t, (constants.frontend.typeAt ⟨.afterCount 0, .afterCount 4⟩).outcome = .ok t ∧
      t.node = .qualified (.ofNode (.pointer (.ofBuiltin .int))) ⟨true, true⟩) ∧
    (∃ t row, (constants.frontend.typeAt ⟨.afterCount 0, .afterCount 5⟩).outcome = .ok t ∧
      t.node = .pointer row) ∧
    ¬ ∃ t, (constants.frontend.typeAt ⟨.afterCount 0, .afterCount 6⟩).outcome = .ok t ∧
      t.node = .qualified (.ofNode (.pointer handler)) ⟨true, false⟩ := by
  obtain ⟨_, object⟩ := spelledAsPointer_object
  obtain ⟨_, row, array⟩ := spelledAsPointer_array
  obtain ⟨_, function⟩ := spelledAsPointer_function
  obtain ⟨t, built, node⟩ := (pointerCv_iff array).2
  refine ⟨(pointerCv_iff object).1.mpr (.inl rfl), ⟨t, row, built, node⟩, fun kept => ?_⟩
  rcases (pointerCv_iff function).1.mp kept with own | own <;> cases own

/-- Every pointer is built in the qualifiers behind its own asterisk. -/
def KeepsPointerCv (fe : Frontend) : Prop :=
  ∀ {site : Site} {facts : TypeFacts} {pointee : Ty} {written : PointerText},
    fe.SpelledAsPointer site facts pointee written →
    ∃ t, (fe.typeAt site).outcome = .ok t ∧
      t.node = ((Ty.ofNode (.pointer pointee)).wrapped written.cv.cv).node

theorem not_keepsPointerCv_constants : ¬ constants.frontend.KeepsPointerCv := by
  intro keeps
  obtain ⟨_, function⟩ := spelledAsPointer_function
  obtain ⟨t, built, node⟩ := keeps function
  obtain ⟨canonical, built'⟩ := function.typeAt_pointer
  cases built.symm.trans built'
  cases node

end Frontend

end CxxTrees
