import CxxTrees.Proofs.Build.Parts
import CxxTrees.Proofs.Outcome
import CxxTrees.Proofs.Spelling.Dimensions
import CxxTrees.Snapshot.Basic

/-!
# Bounds inside of declarators

An array of pointers to arrays or functions is spelled with its own bound in the middle, as in
`int (*[N])[M]` and `void (*[N])(int)`. The bound that is found at the end of the spelling is
then one of the arrays that are pointed to, and with parameters there, none is found at all
(`ownBound_iff`).
-/

namespace CxxTrees

/-- What stands behind the declarator of an array of pointers: the bounds of the array that is
pointed to, or the parameters of the function. -/
inductive PointeeText where
  | array (first : List Char) (more : List (List Char))
    (balanced : ∀ b ∈ first :: more, Spelling.Balanced b)
  | function (parameters : List Char)

namespace PointeeText
open Spelling

def text : PointeeText → List Char
  | array first more _ => bracketed (first :: more)
  | function parameters => '(' :: (parameters ++ [')'])

end PointeeText

/-- An array of pointers as it is spelled: what the pointers lead to, around the bound. -/
structure DeclaratorText where
  base : List Char
  bound : List Char
  pointee : PointeeText

namespace DeclaratorText
open Text Spelling
variable (written : DeclaratorText)

/-- The text up to the bracket behind the bound. -/
def declarator : List Char := written.base ++ '(' :: '*' :: '[' :: (written.bound ++ [']', ')'])

def text : List Char := written.declarator ++ written.pointee.text

theorem declarator_concat : ∃ front, written.declarator = front ++ [')'] :=
  ⟨written.base ++ '(' :: '*' :: '[' :: (written.bound ++ [']']), by simp [declarator]⟩

theorem boundOf_array {first : List Char} {more : List (List Char)}
    {balanced : ∀ b ∈ first :: more, Balanced b}
    (array : written.pointee = .array first more balanced) :
    boundOf written.text = .ok first := by
  obtain ⟨front, declarator⟩ := written.declarator_concat
  let bounds : BoundsText := {
    base := written.declarator
    first := first
    more := more
    apart := by rw [declarator, List.getLast?_concat]; decide
    closed := fun b member => balanced_iff_closes.mp (balanced b member)
    visible := .inr (by
      intro nothing
      have trimmed := trim_concat (c := ')') (by decide) front
      rw [trim, ← declarator, nothing] at trimmed
      exact List.append_ne_nil_of_right_ne_nil _ (List.cons_ne_nil _ _) trimmed.symm) }
  have whole : written.text = bounds.text := by
    rw [text, array]
    rfl
  rw [whole, bounds.boundOf_text]

theorem boundOf_function {parameters : List Char}
    (function : written.pointee = .function parameters) :
    boundOf written.text = .error
      (.malformedSpelling (String.ofList (trim written.text)) "array spelling must end in ']'") := by
  have whole : written.text = (written.declarator ++ '(' :: parameters) ++ [')'] := by
    simp [text, function, PointeeText.text]
  have ends : (trim written.text).getLast? ≠ some ']' := by
    rw [whole, trim_concat (by decide), List.getLast?_concat]
    decide
  rw [boundOf, firstBound, if_pos (.inr ends)]
  rfl

end DeclaratorText

namespace Frontend
open Text
variable {fe : Frontend} {sub : Builder} {site : Site} {c : Cursor} {h k : TypeHandle}
  {facts form : TypeFacts} {element : Ty} {written : DeclaratorText}

/-! ### Arrays as parts and as wholes -/

/-- The element of the array `h` is built, seen from `c`. -/
def BuildsElement (fe : Frontend) (c : Cursor) (h : TypeHandle) (element : Ty) : Prop :=
  ∃ e, fe.elementAt h = .ok (some e) ∧
    (fe.required fe.partBuilder ⟨c, e⟩).outcome = .ok element

/-- An array whose element is built comes out as its size does. -/
theorem arrayAt_outcome (known : fe.type? h = some facts) (built : fe.BuildsElement c h element) :
    (fe.arrayAt fe.partBuilder ⟨c, h⟩).outcome =
      (fe.sizeAt ⟨c, facts.canonical⟩).map fun size => some (.ofNode (.array element size)) := by
  obtain ⟨e, found, built⟩ := built
  unfold arrayAt
  rw [lift_bind_of_ok found]
  simp only [lift_bind_of_ok (type_of_known known)]
  rw [Build.outcome_bind, Build.outcome_lift]
  cases fe.sizeAt ⟨c, facts.canonical⟩ with
  | error stop => rfl
  | ok size =>
    show ((fe.required fe.partBuilder ⟨c, e⟩ >>= _ : Build (Option Ty))).outcome = _
    rw [Build.outcome_bind, built]
    rfl

theorem required_array (known : fe.type? h = some facts)
    (array : facts.kind = .dependentSizedArray) (built : fe.BuildsElement c h element) :
    (fe.required fe.typeBuilder ⟨c, h⟩).outcome =
      (fe.sizeAt ⟨c, facts.canonical⟩).map fun size => .ofNode (.array element size) := by
  have node : fe.nodeAt fe.partBuilder ⟨c, h⟩ = fe.arrayAt fe.partBuilder ⟨c, h⟩ := by
    unfold nodeAt
    rw [lift_bind_of_ok (type_of_known known)]
    simp only [array, TypeKind.builtin?]
  rw [required, typeBuilder_node, node, Build.outcome_bind, arrayAt_outcome known built]
  cases fe.sizeAt ⟨c, facts.canonical⟩ <;> rfl

/-- The size that a bound is, which is missing where the bound is. -/
def sizeOfBound : List Char → Option Expr
  | [] => none
  | bound => some (.unexposed (.ofBuiltin .ulongLong) (Token.ofText bound))

theorem sizeAt_of_spelling {text : List Char} (known : fe.type? site.type = some facts)
    (unsized : facts.arraySize = none) (spelled : fe.spellingAt site = .ok text) :
    fe.sizeAt site = ((Spelling.boundOf text).map sizeOfBound).mapError .fault := by
  unfold sizeAt
  rw [look_bind (type_of_known known)]
  simp only [unsized]
  rw [look_bind spelled]
  cases Spelling.boundOf text with
  | error fault => rfl
  | ok bound => cases bound <;> rfl

/-! ### Arrays that are spelled with declarators -/

/-- An array of a dependent size whose canonical form, perhaps the array itself, is such an array
too and is spelled with a declarator. The elements of both are built. -/
structure SpelledAsDeclarator (fe : Frontend) (site : Site) (facts form : TypeFacts)
    (written : DeclaratorText) : Prop where
  known : fe.type? site.type = some facts
  array : facts.kind = .dependentSizedArray
  canonical : fe.type? facts.canonical = some form
  canonicalArray : form.kind = .dependentSizedArray
  own : form.canonical = facts.canonical
  unsized : form.arraySize = none
  spelled : form.spelling = String.ofList written.text
  element : ∃ element, fe.BuildsElement site.cursor site.type element
  canonicalElement : ∃ element, fe.BuildsElement site.cursor facts.canonical element

namespace SpelledAsDeclarator
variable (spelled : fe.SpelledAsDeclarator site facts form written)
include spelled

theorem sizeAt_eq : fe.sizeAt ⟨site.cursor, facts.canonical⟩ =
    ((Spelling.boundOf written.text).map sizeOfBound).mapError .fault := by
  apply sizeAt_of_spelling spelled.canonical spelled.unsized
  exact spellingAt_of_text spelled.canonical (by rw [spelled.canonicalArray]; nofun) spelled.spelled

theorem canonicalAt_array (element : Ty) {size : Option Expr}
    (sized : fe.sizeAt ⟨site.cursor, facts.canonical⟩ = .ok size) :
    ∃ inner, (fe.canonicalAt site (.ofNode (.array element size))).outcome =
      .ok (.ofNode (.array inner size)) := by
  rw [canonicalAt_outcome spelled.known (by nofun) (by nofun)]
  -- A canonical array is its own canonical form, any other is built from the canonical one.
  by_cases same : facts.canonical = site.type
  · exact ⟨element, by rw [if_pos same]⟩
  · obtain ⟨inner, built⟩ := spelled.canonicalElement
    refine ⟨inner, ?_⟩
    rw [if_neg same, required_array spelled.canonical spelled.canonicalArray built, spelled.own,
      sized]
    rfl

theorem typeAt_array {size : Option Expr}
    (sized : fe.sizeAt ⟨site.cursor, facts.canonical⟩ = .ok size) :
    ∃ element inner, (fe.typeAt site).outcome =
      .ok (.mk (.array element size) (some (.ofNode (.array inner size)))) := by
  obtain ⟨element, built⟩ := spelled.element
  obtain ⟨inner, canonical⟩ := spelled.canonicalAt_array element sized
  have array : (fe.required fe.typeBuilder site).outcome = .ok (.ofNode (.array element size)) := by
    have array := required_array spelled.known spelled.array built
    rwa [sized] at array
  refine ⟨element, inner, ?_⟩
  rw [typeAt_outcome array rfl (by nofun), canonical]
  rfl

theorem typeAt_error {stop : Stop}
    (failed : fe.sizeAt ⟨site.cursor, facts.canonical⟩ = .error stop) :
    (fe.typeAt site).outcome = .error stop := by
  obtain ⟨element, built⟩ := spelled.element
  unfold typeAt typeWith
  rw [Build.outcome_bind, required_array spelled.known spelled.array built, failed]
  rfl

end SpelledAsDeclarator

theorem sizeOfBound_eq_some {first bound : List Char} :
    sizeOfBound first = some (.unexposed (.ofBuiltin .ulongLong) (Token.ofText bound)) ↔
      first ≠ [] ∧ Token.ofText first = Token.ofText bound := by
  cases first with
  | nil => simp [sizeOfBound]
  | cons c first => simp [sizeOfBound, Expr.unexposed]

/-- An array of pointers to arrays has the first bound of those as its size, which is its own only
if both have the same tokens. Of an array of pointers to functions the spelling is an error. -/
theorem ownBound_iff (spelled : fe.SpelledAsDeclarator site facts form written) :
    ((∃ t element, (fe.typeAt site).outcome = .ok t ∧ t.node = .array element
        (some (.unexposed (.ofBuiltin .ulongLong) (Token.ofText written.bound)))) ↔
      ∃ first more balanced, written.pointee = .array first more balanced ∧
        first ≠ [] ∧ Token.ofText first = Token.ofText written.bound) ∧
    ∀ parameters, written.pointee = .function parameters → (fe.typeAt site).outcome =
      .error (.fault (.malformedSpelling (String.ofList (trim written.text))
        "array spelling must end in ']'")) := by
  have size := spelled.sizeAt_eq
  cases pointee : written.pointee with
  | array first more balanced =>
    rw [written.boundOf_array pointee] at size
    obtain ⟨element, inner, built⟩ := spelled.typeAt_array size
    refine ⟨?_, nofun⟩
    constructor
    · rintro ⟨t, element', built', node⟩
      cases built.symm.trans built'
      have own := sizeOfBound_eq_some.mp (Node.array.inj node).2
      exact ⟨first, more, balanced, rfl, own⟩
    · rintro ⟨_, _, _, same, own⟩
      cases same
      exact ⟨_, element, built, congrArg (Node.array element) (sizeOfBound_eq_some.mpr own)⟩
  | function parameters =>
    rw [written.boundOf_function pointee] at size
    have failed := spelled.typeAt_error size
    refine ⟨iff_of_false ?_ ?_, fun _ _ => failed⟩
    · rintro ⟨t, element, built, _⟩
      cases failed.symm.trans built
    · rintro ⟨_, _, _, same, _⟩
      cases same

/-- An array of pointers to arrays, and one of pointers to functions. -/
def pointers : Snapshot where
  cursors := #[{ kind := .fieldDecl, spelling := "rows", entity := ⟨"rows"⟩ }]
  types := #[
    { kind := .int, spelling := "int" },
    { kind := .dependentSizedArray, spelling := "int[M]", element := some (.afterCount 0) },
    { kind := .pointer, spelling := "int (*)[M]", pointee := some (.afterCount 1) },
    { kind := .dependentSizedArray, spelling := "int (*[N])[M]",
      element := some (.afterCount 2) },
    { kind := .void, spelling := "void" },
    { kind := .functionProto, spelling := "void (int)", result := some (.afterCount 4),
      parameters := some [.afterCount 0] },
    { kind := .pointer, spelling := "void (*)(int)", pointee := some (.afterCount 5) },
    { kind := .dependentSizedArray, spelling := "void (*[N])(int)",
      element := some (.afterCount 6) }]

def rowsDeclarator : DeclaratorText :=
  ⟨"int ".toList, "N".toList, .array "M".toList [] (by decide)⟩

def handlersDeclarator : DeclaratorText :=
  ⟨"void ".toList, "N".toList, .function "int".toList⟩

theorem spelledAsDeclarator_rows : ∃ facts form, pointers.frontend.SpelledAsDeclarator
    ⟨.afterCount 0, .afterCount 3⟩ facts form rowsDeclarator :=
  ⟨_, _, {
    known := rfl
    array := rfl
    canonical := rfl
    canonicalArray := rfl
    own := rfl
    unsized := rfl
    spelled := rfl
    element := ⟨_, .afterCount 2, rfl, rfl⟩
    canonicalElement := ⟨_, .afterCount 2, rfl, rfl⟩ }⟩

theorem spelledAsDeclarator_handlers : ∃ facts form, pointers.frontend.SpelledAsDeclarator
    ⟨.afterCount 0, .afterCount 7⟩ facts form handlersDeclarator :=
  ⟨_, _, {
    known := rfl
    array := rfl
    canonical := rfl
    canonicalArray := rfl
    own := rfl
    unsized := rfl
    spelled := rfl
    element := ⟨_, .afterCount 6, rfl, rfl⟩
    canonicalElement := ⟨_, .afterCount 6, rfl, rfl⟩ }⟩

theorem ownBound_iff_pointers :
    (¬ ∃ t element, (pointers.frontend.typeAt ⟨.afterCount 0, .afterCount 3⟩).outcome = .ok t ∧
      t.node = .array element (some (.unexposed (.ofBuiltin .ulongLong) ["N"]))) ∧
    (pointers.frontend.typeAt ⟨.afterCount 0, .afterCount 7⟩).outcome = .error (.fault
      (.malformedSpelling "void (*[N])(int)" "array spelling must end in ']'")) := by
  obtain ⟨facts, form, rows⟩ := spelledAsDeclarator_rows
  obtain ⟨facts', form', handlers⟩ := spelledAsDeclarator_handlers
  refine ⟨fun own => ?_, (ownBound_iff handlers).2 _ rfl⟩
  obtain ⟨first, more, balanced, same, _, tokens⟩ := (ownBound_iff rows).1.mp own
  cases same
  exact absurd tokens (by decide)

/-- The bound of every array that is spelled with a declarator is the one inside of it. -/
def KeepsOwnBound (fe : Frontend) : Prop :=
  ∀ {site : Site} {facts form : TypeFacts} {written : DeclaratorText},
    fe.SpelledAsDeclarator site facts form written →
    ∃ t element, (fe.typeAt site).outcome = .ok t ∧ t.node = .array element
      (some (.unexposed (.ofBuiltin .ulongLong) (Token.ofText written.bound)))

theorem not_keepsOwnBound_pointers : ¬ pointers.frontend.KeepsOwnBound := by
  intro keeps
  obtain ⟨facts, form, handlers⟩ := spelledAsDeclarator_handlers
  obtain ⟨t, element, built, _⟩ := keeps handlers
  have failed := handlers.typeAt_error (handlers.sizeAt_eq.trans rfl)
  cases failed.symm.trans built

end Frontend

end CxxTrees
