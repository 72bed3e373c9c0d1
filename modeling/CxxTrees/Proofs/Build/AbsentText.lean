import CxxTrees.Proofs.Build.Declarators
import CxxTrees.Proofs.Token.SideBySide
import CxxTrees.Tree.Raw

/-!
# Absent text

Where nothing is written, there is no expression. But whether something is written is asked of
the text before it is cut into tokens, and of the tokens before a semicolon is taken off. So a
bound of blanks and a lone semicolon become expressions without a token (`keepsAbsence_iff`).
-/

namespace CxxTrees

namespace Token
open Text

theorem ofText_eq_nil_iff {s : List Char} : ofText s = [] ↔ s.all isBlank = true :=
  List.map_eq_nil_iff.trans scan_eq_nil_iff

theorem dropTrailing_eq_nil_iff {token : String} {tokens : List String} :
    dropTrailing token tokens = [] ↔ tokens = [] ∨ tokens = [token] := by
  unfold dropTrailing
  split
  · rename_i ends
    obtain ⟨front, rfl⟩ := List.getLast?_eq_some_iff.mp ends
    simp
  · rename_i apart
    have other : tokens ≠ [token] := fun same => apart (by rw [same]; rfl)
    simp [other]

end Token

/-- What is made of tokens has tokens, and is missing exactly where they are. -/
structure KeepsAbsence (tokens : List String) (answer : Option Expr) : Prop where
  absent : answer = none ↔ tokens = []
  filled : ∀ type kept, answer = some (.unexposed type kept) → kept ≠ []

/-- A test that is made beforehand has to find out whether there will be tokens. -/
theorem keepsAbsence_ite {test : Prop} [Decidable test] {type : Ty} {tokens : List String} :
    KeepsAbsence tokens (if test then none else some (.unexposed type tokens)) ↔
      (test ↔ tokens = []) := by
  by_cases empty : test
  · rw [if_pos empty]
    exact ⟨fun keeps => iff_of_true empty (keeps.absent.mp rfl),
      fun same => ⟨iff_of_true rfl (same.mp empty), nofun⟩⟩
  · rw [if_neg empty]
    constructor
    · exact fun keeps => iff_of_false empty (keeps.filled type tokens rfl)
    · intro same
      have filled : tokens ≠ [] := fun none => empty (same.mpr none)
      refine ⟨iff_of_false nofun filled, fun type' kept given => ?_⟩
      cases given
      exact filled

theorem keepsAbsence_ofTokens {tokens : List String} {type : Ty} :
    KeepsAbsence (Token.dropTrailing ";" tokens) (Expr.ofTokens? tokens type) ↔
      tokens ≠ [";"] := by
  cases tokens with
  | nil => exact iff_of_true ⟨iff_of_true rfl rfl, nofun⟩ nofun
  | cons first rest =>
    have whole : Expr.ofTokens? (first :: rest) type =
        if False then none else some (.unexposed type (Token.dropTrailing ";" (first :: rest))) :=
      rfl
    rw [whole, keepsAbsence_ite, Token.dropTrailing_eq_nil_iff]
    simp

namespace Frontend
open Text
variable {fe : Frontend} {sub : Builder} {site : Site} {bound : List Char} {size : Option Expr}
  {t : Ty}

theorem keepsAbsence_sizeOfBound :
    KeepsAbsence (Token.ofText bound) (sizeOfBound bound) ↔
      (bound.all isBlank = true → bound = []) := by
  have whole : sizeOfBound bound = if bound = [] then none else
      some (.unexposed (.ofBuiltin .ulongLong) (Token.ofText bound)) := by
    cases bound <;> rfl
  rw [whole, keepsAbsence_ite, Token.ofText_eq_nil_iff]
  exact ⟨fun same => same.mpr, fun filled => ⟨by rintro rfl; rfl, filled⟩⟩

/-! ### The sizes of arrays -/

/-- The size of an array at a site, which its canonical form has. -/
def GivesSize (fe : Frontend) (site : Site) (size : Option Expr) : Prop :=
  ∃ facts, fe.type? site.type = some facts ∧
    fe.sizeAt ⟨site.cursor, facts.canonical⟩ = .ok size

/-- No size is known of an array, but its canonical form is spelled with a bound. -/
def RecoversBound (fe : Frontend) (site : Site) (bound : List Char) : Prop :=
  ∃ facts form spelling, fe.type? site.type = some facts ∧
    fe.type? facts.canonical = some form ∧ form.arraySize = none ∧
    fe.spellingAt ⟨site.cursor, facts.canonical⟩ = .ok spelling ∧
    Spelling.boundOf spelling = .ok bound

theorem givesSize_of_recovers (recovered : fe.RecoversBound site bound) :
    fe.GivesSize site (sizeOfBound bound) := by
  obtain ⟨facts, form, spelling, known, canonical, unsized, spelled, read⟩ := recovered
  refine ⟨facts, known, ?_⟩
  rw [sizeAt_of_spelling canonical unsized spelled, read]
  rfl

theorem givesSize_unique {size' : Option Expr} (given : fe.GivesSize site size)
    (given' : fe.GivesSize site size') : size = size' := by
  obtain ⟨facts, known, sized⟩ := given
  obtain ⟨facts', known', sized'⟩ := given'
  obtain rfl := Option.mem_unique known known'
  exact Except.ok.inj (sized.symm.trans sized')

/-- A size that is not made of a bound is a number. -/
theorem givesSize_cases (given : fe.GivesSize site size) :
    (∃ value, size = some (.literal (.ofBuiltin .ulongLong) value)) ∨
      ∃ bound, fe.RecoversBound site bound := by
  obtain ⟨facts, known, sized⟩ := given
  unfold sizeAt at sized
  obtain ⟨form, looked, sized⟩ := except_bind_ok sized
  split at sized
  · exact .inl ⟨_, (except_pure_ok sized).symm⟩
  · rename_i unsized
    obtain ⟨spelling, spelled, sized⟩ := except_bind_ok sized
    cases read : Spelling.boundOf spelling with
    | error fault =>
      rw [read] at sized
      cases sized
    | ok bound =>
      exact .inr ⟨bound, facts, form, spelling, known, type_ok looked, unsized, spelled, read⟩

theorem arrayAt_givesSize (built : (fe.arrayAt sub site).outcome = .ok (some t)) :
    ∃ element size, t = .ofNode (.array element size) ∧ fe.GivesSize site size := by
  unfold arrayAt at built
  obtain ⟨element, _, built⟩ := Build.bind_ok built
  cases element with
  | none => cases Build.pure_ok built
  | some element =>
    obtain ⟨facts, looked, built⟩ := Build.bind_ok built
    obtain ⟨size, sized, built⟩ := Build.bind_ok built
    obtain ⟨inner, _, built⟩ := Build.bind_ok built
    exact ⟨inner, size, (Option.some.inj (Build.pure_ok built)).symm, facts, type_ok looked, sized⟩

/-- A bound keeps absence unless there are blanks in it and nothing else, and tokens do unless
they are a lone semicolon. Every array has the size that is given at its site. -/
theorem keepsAbsence_iff (fe : Frontend) :
    (∀ site bound, fe.RecoversBound site bound → ∃ size, fe.GivesSize site size ∧
      (KeepsAbsence (Token.ofText bound) size ↔ (bound.all isBlank = true → bound = []))) ∧
    (∀ (sub : Builder) site t, (fe.arrayAt sub site).outcome = .ok (some t) →
      ∃ element size, t = .ofNode (.array element size) ∧ fe.GivesSize site size ∧
        ((∃ value, size = some (.literal (.ofBuiltin .ulongLong) value)) ∨
          ∃ bound, fe.RecoversBound site bound)) ∧
    ∀ tokens type, KeepsAbsence (Token.dropTrailing ";" tokens) (Expr.ofTokens? tokens type) ↔
      tokens ≠ [";"] := by
  refine ⟨fun site bound recovered => ?_, fun sub site t built => ?_,
    fun _ _ => keepsAbsence_ofTokens⟩
  · exact ⟨_, givesSize_of_recovers recovered, keepsAbsence_sizeOfBound⟩
  · obtain ⟨element, size, same, given⟩ := arrayAt_givesSize built
    exact ⟨element, size, same, given, givesSize_cases given⟩

/-- Arrays that are spelled with blanks, nothing and a name as their bounds. -/
def ints : Snapshot where
  cursors := #[{ kind := .fieldDecl, spelling := "xs", entity := ⟨"xs"⟩ }]
  types := #[
    { kind := .int, spelling := "int" },
    { kind := .dependentSizedArray, spelling := "int[ ]", element := some (.afterCount 0) },
    { kind := .incompleteArray, spelling := "int[]", element := some (.afterCount 0) },
    { kind := .dependentSizedArray, spelling := "int[N]", element := some (.afterCount 0) }]

/-- The array of the table that is the type `h`, with its canonical form. -/
def IsIntArray (h : TypeHandle) (size : Option Expr) : Prop :=
  (ints.frontend.typeAt ⟨.afterCount 0, h⟩).outcome =
    .ok (.mk (.array (.ofBuiltin .int) size) (some (.ofNode (.array (.ofBuiltin .int) size))))

theorem recoversBound_ints :
    ints.frontend.RecoversBound ⟨.afterCount 0, .afterCount 1⟩ [' '] ∧
    ints.frontend.RecoversBound ⟨.afterCount 0, .afterCount 3⟩ ['N'] :=
  ⟨⟨_, _, _, rfl, rfl, rfl, rfl, rfl⟩, ⟨_, _, _, rfl, rfl, rfl, rfl, rfl⟩⟩

theorem keepsAbsence_iff_ints :
    (∃ size, IsIntArray (.afterCount 1) size ∧ ¬ KeepsAbsence [] size) ∧
    (∃ size, IsIntArray (.afterCount 3) size ∧ KeepsAbsence ["N"] size) ∧
    ¬ KeepsAbsence [] (Expr.ofTokens? [";"] (.ofBuiltin .int)) ∧
    KeepsAbsence ["x"] (Expr.ofTokens? ["x", ";"] (.ofBuiltin .int)) := by
  obtain ⟨recovers, _, ofTokens⟩ := keepsAbsence_iff ints.frontend
  obtain ⟨blank, given, keeps⟩ := recovers _ _ recoversBound_ints.1
  obtain ⟨named, given', keeps'⟩ := recovers _ _ recoversBound_ints.2
  refine ⟨⟨blank, ?_, fun kept => absurd (keeps.mp kept rfl) nofun⟩,
    ⟨named, ?_, keeps'.mpr nofun⟩, fun kept => (ofTokens [";"] _).mp kept rfl,
    (ofTokens ["x", ";"] _).mpr nofun⟩
  · rw [givesSize_unique given (givesSize_of_recovers recoversBound_ints.1)]
    rfl
  · rw [givesSize_unique given' (givesSize_of_recovers recoversBound_ints.2)]
    rfl

/-- A bound without a token is no size. -/
def KeepsAbsentBounds (fe : Frontend) : Prop :=
  ∀ site bound size, fe.RecoversBound site bound → fe.GivesSize site size →
    KeepsAbsence (Token.ofText bound) size

/-- Tokens of which none is left are no expression. -/
def KeepsAbsentTokens : Prop :=
  ∀ tokens type, KeepsAbsence (Token.dropTrailing ";" tokens) (Expr.ofTokens? tokens type)

theorem not_keepsAbsentText_ints : ¬ ints.frontend.KeepsAbsentBounds ∧ ¬ KeepsAbsentTokens := by
  constructor
  · intro keeps
    have kept := keeps _ _ _ recoversBound_ints.1 (givesSize_of_recovers recoversBound_ints.1)
    exact kept.filled _ _ rfl rfl
  · intro keeps
    exact (keeps [";"] (.ofBuiltin .int)).filled _ _ rfl rfl

end Frontend

end CxxTrees
