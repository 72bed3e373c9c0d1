import CxxTrees.Proofs.Build.Parts
import CxxTrees.Proofs.Spelling.Joined
import CxxTrees.Proofs.Spelling.Scoped
import CxxTrees.Snapshot.Basic

/-!
# Typedefs of the own scope

Where a typedef is seen from the scope that declares it, the scope that it is spelled with is taken
off. Qualifiers in front of the scope are lost there, and so is the beginning of an argument list
with a colon in it: `spellingAt_local_iff`.
-/

namespace CxxTrees.Frontend
open Text Spelling
variable {fe : Frontend} {site : Site} {outside declaration : Cursor} {facts : TypeFacts}
  {written : ScopedText} {scope scope' : Option Cursor}

/-- A cursor is declared right inside of a scope, or in none. -/
def LiesIn (fe : Frontend) (scope : Option Cursor) (c : Cursor) : Prop :=
  ∃ declared, fe.cursor? c = some declared ∧ declared.semanticParent = scope

theorem spellingAt_typedef (known : fe.type? site.type = some facts)
    (typedef : facts.kind = .typedef)
    (declared : facts.declaration = some declaration) (lies : fe.LiesIn scope declaration)
    (seen : fe.LiesIn scope' site.cursor) :
    fe.spellingAt site = .ok
      (if scope = scope' then unscoped facts.spelling.toList else facts.spelling.toList) := by
  obtain ⟨entry, found, rfl⟩ := lies
  obtain ⟨here, found', rfl⟩ := seen
  have isLocal : fe.isLocalTypedef site =
      .ok (decide (entry.semanticParent = here.semanticParent)) := by
    rw [isLocalTypedef, look_bind (type_of_known known), if_neg (not_not.mpr typedef), declared]
    simp only
    rw [look_bind (cursor_of_known found), look_bind (cursor_of_known found')]
    rfl
  rw [spellingAt_eq known isLocal]
  simp only [decide_eq_true_eq]

/-- A typedef that is spelled with its scope, the site of a use in this scope, and a cursor outside
of it. -/
structure SpelledWithScope (fe : Frontend) (site : Site) (outside : Cursor) (facts : TypeFacts)
    (written : ScopedText) : Prop where
  known : fe.type? site.type = some facts
  typedef : facts.kind = .typedef
  spelled : facts.spelling = String.ofList written.text
  declared : ∃ declaration scope, facts.declaration = some declaration ∧
    fe.LiesIn scope declaration ∧ fe.LiesIn scope site.cursor ∧
    ∃ other ≠ scope, fe.LiesIn other outside

namespace SpelledWithScope
variable (spelled : fe.SpelledWithScope site outside facts written)
include spelled

theorem spellingAt_inside : fe.spellingAt site = .ok (unscoped written.text) := by
  obtain ⟨declaration, scope, declared, lies, seen, _⟩ := spelled.declared
  rw [spellingAt_typedef spelled.known spelled.typedef declared lies seen, if_pos rfl,
    spelled.spelled, String.toList_ofList]

theorem spellingAt_outside : fe.spellingAt ⟨outside, site.type⟩ = .ok written.text := by
  obtain ⟨declaration, scope, declared, lies, _, other, apart, seen⟩ := spelled.declared
  have spelling : fe.spellingAt ⟨outside, site.type⟩ = _ :=
    spellingAt_typedef spelled.known spelled.typedef declared lies seen
  rw [spelling, if_neg apart.symm, spelled.spelled, String.toList_ofList]

end SpelledWithScope

/-- The qualifiers of the leaf at a site. -/
def leafCvAt (fe : Frontend) (site : Site) : Except Stop Cv := (fe.leafAt site).map Prod.fst

theorem leafCvAt_of_spelling {s : List Char} (spelled : fe.spellingAt site = .ok s) :
    fe.leafCvAt site = .ok (outerCv s).1 := by
  rw [leafCvAt, leafAt, look_bind spelled]
  rfl

/-- Of a typedef that is seen from its own scope, what is left is what follows the last colon. Only
if no qualifiers stand in front and no colon among the arguments, that is all but the scope. Of the
qualifiers in front none is found, unless the arguments are cut before one. -/
theorem spellingAt_local_iff (spelled : fe.SpelledWithScope site outside facts written) :
    (fe.spellingAt site = .ok written.withoutScope ↔
      written.before = .none ∧ ':' ∉ argumentList written.arguments) ∧
    fe.spellingAt site =
      .ok (unscoped written.lastPart ++ written.after.behind written.backPad.text) ∧
    (let left := (leadingCv (trimStart (unscoped written.lastPart))).1
     fe.leafCvAt site = .ok
      { isConst := left.isConst || written.after.cv.isConst
        isVolatile := left.isVolatile || written.after.cv.isVolatile }) ∧
    (':' ∉ argumentList written.arguments → fe.leafCvAt site = .ok written.after.cv) ∧
    fe.leafCvAt ⟨outside, site.type⟩ = .ok
      { isConst := written.before.cv.isConst || written.after.cv.isConst
        isVolatile := written.before.cv.isVolatile || written.after.cv.isVolatile } := by
  have inside := spelled.spellingAt_inside
  have qualifiers := leafCvAt_of_spelling inside
  rw [written.outerCv_unscoped] at qualifiers
  refine ⟨?_, ?_, qualifiers, fun absent => ?_, ?_⟩
  · rw [inside, Except.ok.injEq]
    exact written.unscoped_text_iff
  · rw [inside, written.unscoped_text]
  · rw [qualifiers, written.leadingCv_left absent, Cv.none_union]
  · rw [leafCvAt_of_spelling spelled.spellingAt_outside, written.outerCv_text]
    rfl

/-- A class with two typedefs, the one of which is spelled with a qualifier and the other with an
argument that has a scope itself. -/
def box : Snapshot where
  cursors := #[
    { kind := .classDecl, spelling := "Box", entity := ⟨"Box"⟩ },
    { kind := .typedefDecl, spelling := "value_type", entity := ⟨"Box::value_type"⟩,
      semanticParent := some (.afterCount 0) },
    { kind := .fieldDecl, spelling := "value", entity := ⟨"Box::value"⟩,
      semanticParent := some (.afterCount 0) },
    { kind := .varDecl, spelling := "v", entity := ⟨"v"⟩ },
    { kind := .typeAliasDecl, spelling := "list", entity := ⟨"Box::list"⟩,
      semanticParent := some (.afterCount 0) }]
  types := #[
    { kind := .typedef, spelling := "const Box::value_type",
      declaration := some (.afterCount 1) },
    { kind := .typedef, spelling := "Box::list<std::string> const",
      declaration := some (.afterCount 4) }]

def constValue : ScopedText where
  before := .one .const
  frontPad := .space
  core := "Box::value_type".toList
  backPad := .space
  after := .none
  nonempty := by decide
  trimmed := by decide
  frontApart := by decide
  backApart := by decide
  bare q := by cases q <;> decide
  scope := "Box".toList
  name := "value_type".toList
  arguments := none
  spelled := by decide
  named := by decide
  plain := by decide
  visible := by decide
  unqualified q := by cases q <;> decide

def stringList : ScopedText where
  before := .none
  frontPad := .space
  core := "Box::list<std::string>".toList
  backPad := .space
  after := .one .const
  nonempty := by decide
  trimmed := by decide
  frontApart := by decide
  backApart := by decide
  bare q := by cases q <;> decide
  scope := "Box".toList
  name := "list".toList
  arguments := some "std::string".toList
  spelled := by decide
  named := by decide
  plain := by decide
  visible := by decide
  unqualified q := by cases q <;> decide

theorem spelledWithScope_constValue : ∃ facts,
    box.frontend.SpelledWithScope ⟨.afterCount 2, .afterCount 0⟩ (.afterCount 3) facts constValue :=
  ⟨_, {
    known := rfl
    typedef := rfl
    spelled := rfl
    declared := ⟨.afterCount 1, some (.afterCount 0), rfl, ⟨_, rfl, rfl⟩, ⟨_, rfl, rfl⟩, none,
      nofun, _, rfl, rfl⟩ }⟩

theorem spelledWithScope_stringList : ∃ facts,
    box.frontend.SpelledWithScope ⟨.afterCount 2, .afterCount 1⟩ (.afterCount 3) facts stringList :=
  ⟨_, {
    known := rfl
    typedef := rfl
    spelled := rfl
    declared := ⟨.afterCount 4, some (.afterCount 0), rfl, ⟨_, rfl, rfl⟩, ⟨_, rfl, rfl⟩, none,
      nofun, _, rfl, rfl⟩ }⟩

theorem spellingAt_local_iff_box :
    (box.frontend.spellingAt ⟨.afterCount 2, .afterCount 0⟩ = .ok "value_type".toList ∧
      box.frontend.leafCvAt ⟨.afterCount 2, .afterCount 0⟩ = .ok Cv.none ∧
      box.frontend.leafCvAt ⟨.afterCount 3, .afterCount 0⟩ = .ok Qualifier.const.cv) ∧
    box.frontend.spellingAt ⟨.afterCount 2, .afterCount 1⟩ = .ok "string> const".toList := by
  obtain ⟨_, value⟩ := spelledWithScope_constValue
  obtain ⟨_, list⟩ := spelledWithScope_stringList
  obtain ⟨_, left, _, inside, outside⟩ := spellingAt_local_iff value
  exact ⟨⟨left, inside List.not_mem_nil, outside⟩, (spellingAt_local_iff list).2.1⟩

/-- A typedef that is seen from its own scope is spelled without this scope and otherwise as it is
seen from elsewhere, with the same qualifiers and all of its arguments. -/
def DropsScopeOnly (fe : Frontend) : Prop :=
  ∀ {site : Site} {outside : Cursor} {facts : TypeFacts} {written : ScopedText},
    fe.SpelledWithScope site outside facts written →
    (∀ body ∈ written.arguments, ∃ args, Lists args body) →
    fe.spellingAt site = .ok written.withoutScope ∧
      fe.leafCvAt site = fe.leafCvAt ⟨outside, site.type⟩

theorem not_dropsScopeOnly_box : ¬ box.frontend.DropsScopeOnly := by
  intro drops
  obtain ⟨_, value⟩ := spelledWithScope_constValue
  obtain ⟨_, same⟩ := drops value nofun
  have inside : box.frontend.leafCvAt ⟨.afterCount 2, .afterCount 0⟩ = .ok {} := rfl
  have outside : box.frontend.leafCvAt ⟨.afterCount 3, .afterCount 0⟩ = .ok { isConst := true } :=
    rfl
  rw [inside, outside] at same
  cases same

end CxxTrees.Frontend
