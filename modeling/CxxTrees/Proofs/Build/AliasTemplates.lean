import CxxTrees.Proofs.Build.Arguments
import CxxTrees.Proofs.Build.Canonical
import CxxTrees.Proofs.Build.Recorded
import CxxTrees.Proofs.Build.Stops

/-!
# Instantiations of alias templates

The canonical form of an instantiation has to be one too, and for a class template it is. What an
alias template stands for can be any type. Where it is none of a class template, a type that is
read from the name of the alias has no canonical form that would do (`mismatches_of_alias_iff`).
-/

namespace CxxTrees.Frontend
open Text
variable {fe : Frontend} {sub : Builder} {site : Site} {facts : TypeFacts}
  {declared canonical form : Ty} {written : InstantiationText}

/-! ### Canonical forms that will not do -/

/-- A type is not built because it is an instantiation and its canonical form is none. -/
def Mismatches (fe : Frontend) (site : Site) : Prop :=
  ∃ spelling form, (fe.typeAt site).outcome = .error (.fault (.canonicalKindMismatch spelling form))

/-- Nothing else than a whole type ends in this way. -/
theorem admitsNode_of_mismatch (fe : Frontend) : fe.AdmitsNode fun stop =>
    ∀ spelling form, stop ≠ .fault (.canonicalKindMismatch spelling form) where
  spelling reading _ _ := by cases reading <;> nofun
  parts := .inl fun part _ _ => by cases part <;> nofun
  outside := .inl nofun
  endless := .inl nofun

theorem typeAt_of_mismatch (known : fe.type? site.type = some facts)
    (built : (fe.required fe.typeBuilder site).outcome = .ok declared)
    (instantiation : declared.nodeClass = .instantiation)
    (formed : (fe.canonicalAt site declared).outcome = .ok form)
    (other : form.nodeClass ≠ .instantiation) : (fe.typeAt site).outcome =
      .error (.fault (.canonicalKindMismatch facts.spelling form.nodeClass)) := by
  rw [typeAt_eq built (builder_node_reads (required_ok built)).1, look_bind formed,
    if_pos ⟨instantiation, other⟩, rawSpelling, type_of_known known]
  rfl

theorem mismatches_iff (built : (fe.required fe.typeBuilder site).outcome = .ok declared) :
    fe.Mismatches site ↔ declared.nodeClass = .instantiation ∧ ∃ form,
      (fe.canonicalAt site declared).outcome = .ok form ∧ form.nodeClass ≠ .instantiation := by
  have node := required_ok built
  constructor
  · rintro ⟨spelling, form', stopped⟩
    rw [typeAt_eq built (builder_node_reads node).1] at stopped
    cases ended : (fe.canonicalAt site declared).outcome with
    | error stop =>
      rw [ended] at stopped
      obtain rfl := Except.error.inj stopped
      exact absurd rfl ((admitsNode_of_mismatch fe).canonicalAt_stopsBy ⟨.inl nofun, .inl nofun⟩
        (isValid_of_builder node) declared _ ended spelling form')
    | ok form =>
      rw [look_bind ended] at stopped
      split at stopped
      · rename_i mismatch
        exact ⟨mismatch.1, form, rfl, mismatch.2⟩
      · cases stopped
  · rintro ⟨instantiation, form, formed, other⟩
    obtain ⟨_, _, node⟩ := builder_node_ok node
    obtain ⟨facts, known⟩ := nodeAt_known node
    exact ⟨_, _, typeAt_of_mismatch known built instantiation formed other⟩

/-! ### Types that are read from their spelling -/

/-- A type is an instantiation if it is spelled as one. -/
def IsReadAsSpelled (fe : Frontend) (site : Site) (facts : TypeFacts) : Prop :=
  facts.kind = .elaborated ∨ facts.kind.isTextual = true ∧ ¬ fe.ReadsOtherwise site

theorem kind_of_readAsSpelled (read : fe.IsReadAsSpelled site facts) :
    facts.kind ≠ .typedef ∧ facts.kind ≠ .auto := by
  rcases read with kind | ⟨kind, _⟩
  · rw [kind]
    exact ⟨nofun, nofun⟩
  · constructor <;> intro same <;> rw [same] at kind <;> cases kind

theorem readsInstantiation_of_nodeClass
    (built : (fe.required fe.typeBuilder site).outcome = .ok declared)
    (instantiation : declared.nodeClass = .instantiation) : fe.ReadsInstantiation site := by
  refine (builder_node_reads (required_ok built)).2.mp ?_
  rw [Ty.unqualified_of_nodeClass (by rw [instantiation]; nofun), instantiation]

/-- The qualifiers that an instantiation is spelled with decide if its node is a bare one. -/
theorem nodeClass_of_instantiationAt {cv : Cv} {spelling : List Char}
    (leaf : fe.leafAt site = .ok (cv, spelling))
    (built : (fe.instantiationAt sub site).outcome = .ok (some declared)) :
    declared.nodeClass = .instantiation ↔ cv = Cv.none := by
  obtain ⟨cv', spelling', declaration, arguments, leaf', rfl⟩ := qualified_of_instantiationAt built
  cases leaf.symm.trans leaf'
  exact Ty.nodeClass_qualify_iff (by nofun)

/-- A type that was deduced to be an instantiation has that as its canonical form. -/
theorem not_mismatches_of_auto (known : fe.type? site.type = some facts) (auto : facts.kind = .auto)
    (built : (fe.required fe.typeBuilder site).outcome = .ok declared) :
    ¬ fe.Mismatches site := by
  rw [mismatches_iff built]
  rintro ⟨instantiation, form, formed, other⟩
  have reads := readsInstantiation_of_nodeClass built instantiation
  obtain ⟨k, deduced, reads⟩ := (readsInstantiation_auto known auto).mp reads
  have own : ∀ other, ¬ fe.DeducedAs k other := by
    intro other again
    obtain ⟨_, facts', _, _, _, _, known', kind⟩ := deduced
    exact kind (deducedAs_kind again known')
  have canonical : fe.HasCanonical site.type k ∧ k ≠ site.type := by
    obtain ⟨facts', _, known', _, same, different, _⟩ := deduced
    exact ⟨⟨facts', known', same⟩, different⟩
  -- The declared node is that of the canonical type, so the two are spelled alike.
  obtain ⟨inner, same⟩ : ∃ inner, (fe.instantiationAt (fe.builder inner)
      { site with type := k }).outcome = .ok (some declared) := by
    have node := required_ok built
    rw [typeBuilder_node] at node
    obtain ⟨inner, _, node⟩ := builder_node_ok (nodeAt_deduced deduced node)
    exact ⟨inner, nodeAt_of_reads own reads node⟩
  cases canonicalAt_ok canonical.1 formed with
  | own stays => exact canonical.2 stays
  | recovered _ recovers =>
    rcases recovers with recovered | ⟨unspelled, _⟩
    · rw [typeBuilder_instantiation] at recovered
      obtain ⟨cv, spelling, _, _, leaf, _⟩ := qualified_of_instantiationAt recovered
      have bare := (nodeClass_of_instantiationAt leaf same).mp instantiation
      exact other ((nodeClass_of_instantiationAt leaf recovered).mpr bare)
    · exact unspelled (instantiationAt_some same).1
  | node _ plain _ =>
    have notSelf : ¬ fe.HasCanonical site.type site.type :=
      fun self => canonical.2 (hasCanonical_unique canonical.1 self)
    exact plain ⟨notSelf, .inl instantiation⟩

/-! ### Alias templates -/

/-- A type is spelled as an instantiation, and its declaration is an alias template. -/
structure SpelledAsAlias (fe : Frontend) (site : Site) (facts : TypeFacts)
    (written : InstantiationText) : Prop where
  known : fe.type? site.type = some facts
  template : ∃ d template, facts.declaration = some d ∧ fe.cursor? d = some template ∧
    template.kind = .typeAliasTemplateDecl ∧ ∀ t, template.type = some t → fe.HasType t
  spelled : facts.spelling = String.ofList written.text

namespace SpelledAsAlias
variable (spelled : fe.SpelledAsAlias site facts written)
include spelled

theorem exists_template (name : List Char) :
    ∃ template, fe.templateAt site name = .ok (some template) := by
  obtain ⟨d, template, declaration, known, kind, typed⟩ := spelled.template
  refine ⟨template.specializedTemplate.getD d,
    templateAt_of_declaration spelled.known declaration ?_ name⟩
  have templated (count : Nat) :
      count > 0 ∨ CursorKind.typeAliasTemplateDecl.isDirectlyTemplated = true := .inr rfl
  unfold templateOfDeclaration
  rw [look_bind (cursor_of_known known)]
  simp only [kind, templated, if_true]
  cases link : template.type with
  | none => rfl
  | some t =>
    obtain ⟨typeFacts, known⟩ := typed t link
    simp only
    rw [look_bind (type_of_known known)]
    rfl

theorem leafAt_eq (other : facts.kind ≠ .typedef) :
    fe.leafAt site = .ok (written.cv, written.core) := by
  rw [leafAt, look_bind (spellingAt_of_text spelled.known other spelled.spelled), written.leaf_text]
  rfl

theorem spellsInstantiation (other : facts.kind ≠ .typedef) : fe.SpellsInstantiation site := by
  obtain ⟨template, found⟩ := spelled.exists_template written.name
  exact ⟨template, written.cv, written.core, written.name, _, written.body,
    spelled.leafAt_eq other, written.splitName_core, found, withoutClosing_concat _⟩

/-- Unless it is deduced, an alias is a bare instantiation if it is read by its name and spelled
without qualifiers. -/
theorem nodeClass_iff (kind : facts.kind ≠ .auto)
    (built : (fe.required fe.typeBuilder site).outcome = .ok declared) :
    declared.nodeClass = .instantiation ↔
      fe.IsReadAsSpelled site facts ∧ written.cv = Cv.none := by
  have own : ∀ other, ¬ fe.DeducedAs site.type other :=
    fun other deduced => kind (deducedAs_kind deduced spelled.known)
  have bare (reads : fe.ReadsInstantiation site) (read : fe.IsReadAsSpelled site facts) :
      declared.nodeClass = .instantiation ↔ written.cv = Cv.none := by
    have node := required_ok built
    rw [typeBuilder_node] at node
    exact nodeClass_of_instantiationAt (spelled.leafAt_eq (kind_of_readAsSpelled read).1)
      (nodeAt_of_reads own reads node)
  constructor
  · intro instantiation
    have reads := readsInstantiation_of_nodeClass built instantiation
    have read : fe.IsReadAsSpelled site facts := by
      rcases (readsInstantiation_iff spelled.known).mp reads with
        ⟨elaborated, _⟩ | ⟨text, only, _⟩ | ⟨other, deduced, _⟩
      · exact .inl elaborated
      · exact .inr ⟨text, only⟩
      · exact absurd deduced (own other)
    exact ⟨read, (bare reads read).mp instantiation⟩
  · rintro ⟨read, unqualified⟩
    have spells := spelled.spellsInstantiation (kind_of_readAsSpelled read).1
    have reads : fe.ReadsInstantiation site := by
      rcases read with elaborated | ⟨text, only⟩
      · exact .elaborated spelled.known elaborated spells
      · exact .text spelled.known text only spells
    exact (bare reads read).mpr unqualified

end SpelledAsAlias

/-! ### Canonical types without arguments -/

/-- A type at a site is spelled without an opening bracket, and has a kind by which it is built. -/
def IsPlainAt (fe : Frontend) (site : Site) : Prop :=
  ∃ facts text, fe.type? site.type = some facts ∧ facts.kind.isExposed = true ∧
    fe.spellingAt site = .ok text ∧ '<' ∉ text

theorem instantiationAt_of_plain (plain : fe.IsPlainAt site) :
    fe.instantiationAt sub site = pure none := by
  obtain ⟨facts, text, _, _, spelled, absent⟩ := plain
  have leaf : fe.leafAt site = .ok (Spelling.leaf text) := by
    rw [leafAt, look_bind spelled]
    rfl
  have nothing : splitName (Spelling.leaf text).2 = none :=
    splitName_eq_none fun member => absent ((Spelling.leaf_sublist text).subset member)
  unfold instantiationAt
  rw [lift_bind_of_ok leaf]
  simp only [nothing]

/-- The canonical type of an instantiation is read as it is spelled first. -/
theorem canonicalAt_of_instantiation (known : fe.type? site.type = some facts)
    (instantiation : declared.nodeClass = .instantiation) (other : facts.canonical ≠ site.type) :
    fe.canonicalAt site declared =
      fe.instantiationAt fe.partBuilder ⟨site.cursor, facts.canonical⟩ >>= fun read =>
        read.elim (fe.required fe.typeBuilder ⟨site.cursor, facts.canonical⟩) pure := by
  unfold canonicalAt canonicalWith
  rw [lift_bind_of_ok (type_of_known known)]
  simp only [if_neg other, instantiation]
  rw [typeBuilder_instantiation]
  exact bind_congr fun read => by cases read <;> rfl

theorem canonicalAt_of_plain (known : fe.type? site.type = some facts)
    (instantiation : declared.nodeClass = .instantiation) (other : facts.canonical ≠ site.type)
    (plain : fe.IsPlainAt ⟨site.cursor, facts.canonical⟩)
    (built : (fe.required fe.typeBuilder ⟨site.cursor, facts.canonical⟩).outcome =
      .ok canonical) :
    (fe.canonicalAt site declared).outcome = .ok canonical := by
  rw [canonicalAt_of_instantiation known instantiation other, instantiationAt_of_plain plain,
    pure_bind]
  exact built

theorem nodeClass_of_plain (plain : fe.IsPlainAt site)
    (built : (fe.required fe.typeBuilder site).outcome = .ok declared) :
    declared.nodeClass ≠ .instantiation := by
  obtain ⟨facts, _, known, kind, _⟩ := plain
  intro instantiation
  exact readsInstantiation_exposed known kind (readsInstantiation_of_nodeClass built instantiation)

/-! ### Canonical types of every spelling -/

/-- The spelling of a type is none of an instantiation: it has no opening bracket, or nothing that
is known in front of that, or no closing bracket at its end. -/
inductive SpelledOtherwise (fe : Frontend) (site : Site) : Prop where
  | plain {cv : Cv} {spelling : List Char} (leaf : fe.leafAt site = .ok (cv, spelling))
      (absent : splitName spelling = none)
  | unknown {cv : Cv} {spelling name tail : List Char} (leaf : fe.leafAt site = .ok (cv, spelling))
      (split : splitName spelling = some (name, tail)) (absent : fe.templateAt site name = .ok none)
  | unclosed {cv : Cv} {spelling name tail : List Char} {template : Cursor}
      (leaf : fe.leafAt site = .ok (cv, spelling)) (split : splitName spelling = some (name, tail))
      (named : fe.templateAt site name = .ok (some template)) (absent : withoutClosing tail = none)

/-- A type is spelled as an instantiation with qualifiers around it, and its arguments can be
built. -/
def IsQualifiedInstantiation (fe : Frontend) (site : Site) : Prop :=
  ∃ cv spelling name tail body template arguments, fe.leafAt site = .ok (cv, spelling) ∧
    cv ≠ Cv.none ∧ splitName spelling = some (name, tail) ∧ withoutClosing tail = some body ∧
    fe.templateAt site name = .ok (some template) ∧ fe.HasCursor template ∧
    (fe.argumentsOf fe.partBuilder template site.type body).outcome = .ok arguments

theorem instantiationAt_none_iff :
    (fe.instantiationAt sub site).outcome = .ok none ↔ fe.SpelledOtherwise site := by
  constructor
  · intro passed
    have unspelled := instantiationAt_none passed
    unfold instantiationAt at passed
    obtain ⟨⟨cv, spelling⟩, leaf, passed⟩ := Build.bind_ok passed
    cases split : splitName spelling with
    | none => exact .plain leaf split
    | some parts =>
      simp only [split] at passed
      obtain ⟨found, named, passed⟩ := Build.bind_ok passed
      cases found with
      | none => exact .unknown leaf split named
      | some template =>
        cases closed : withoutClosing parts.2 with
        | none => exact .unclosed leaf split named closed
        | some body => exact (unspelled ⟨_, cv, spelling, _, _, body, leaf, split, named, closed⟩).elim
  · rintro (⟨leaf, absent⟩ | ⟨leaf, split, absent⟩ | ⟨leaf, split, named, absent⟩)
    all_goals
      unfold instantiationAt
      rw [lift_bind_of_ok leaf]
    · simp only [absent]
      rfl
    · simp only [split]
      rw [lift_bind_of_ok absent]
      rfl
    · simp only [split]
      rw [lift_bind_of_ok named]
      simp only [absent]
      rfl

theorem isQualifiedInstantiation_iff : fe.IsQualifiedInstantiation site ↔
    ∃ t, (fe.instantiationAt fe.partBuilder site).outcome = .ok (some t) ∧
      t.nodeClass ≠ .instantiation := by
  constructor
  · rintro ⟨cv, spelling, name, tail, body, template, arguments, leaf, qualified, split, closed,
      named, ⟨facts, known⟩, built⟩
    obtain ⟨t, whole⟩ : ∃ t, (fe.instantiationAt fe.partBuilder site).outcome = .ok (some t) := by
      rw [instantiationAt_of_split leaf split closed, lift_bind_of_ok named]
      dsimp only
      rw [Build.outcome_bind, look_bind built, lift_bind_of_ok (cursor_of_known known)]
      exact ⟨_, rfl⟩
    exact ⟨t, whole, fun bare => qualified ((nodeClass_of_instantiationAt leaf whole).mp bare)⟩
  · rintro ⟨t, built, other⟩
    obtain ⟨⟨template, cv, spelling, name, tail, body, leaf, split, named, closed⟩, _⟩ :=
      instantiationAt_some built
    have qualified : cv ≠ Cv.none :=
      fun none => other ((nodeClass_of_instantiationAt leaf built).mpr none)
    rw [instantiationAt_of_split leaf split closed, lift_bind_of_ok named] at built
    obtain ⟨arguments, each, built⟩ := Build.bind_ok built
    obtain ⟨facts, looked, _⟩ := Build.bind_ok built
    exact ⟨cv, spelling, name, tail, body, template, arguments, leaf, qualified, split, closed,
      named, ⟨facts, cursor_ok looked⟩, each⟩

/-- The form of an instantiation is no bare one exactly if its canonical type is another one, and
that is spelled with qualifiers or is no instantiation at all. -/
theorem exists_otherForm_iff (known : fe.type? site.type = some facts)
    (instantiation : declared.nodeClass = .instantiation)
    (builtCanonical : (fe.required fe.typeBuilder ⟨site.cursor, facts.canonical⟩).outcome =
      .ok canonical) :
    (∃ form, (fe.canonicalAt site declared).outcome = .ok form ∧
        form.nodeClass ≠ .instantiation) ↔
      facts.canonical ≠ site.type ∧ (fe.IsQualifiedInstantiation ⟨site.cursor, facts.canonical⟩ ∨
        fe.SpelledOtherwise ⟨site.cursor, facts.canonical⟩ ∧
          canonical.nodeClass ≠ .instantiation) := by
  by_cases own : facts.canonical = site.type
  · refine iff_of_false ?_ fun other => other.1 own
    rintro ⟨form, formed, other⟩
    unfold canonicalAt canonicalWith at formed
    rw [lift_bind_of_ok (type_of_known known)] at formed
    simp only [own, if_true] at formed
    obtain rfl := Build.pure_ok formed
    exact other instantiation
  · have otherwise : fe.SpelledOtherwise ⟨site.cursor, facts.canonical⟩ ↔
        (fe.instantiationAt fe.partBuilder ⟨site.cursor, facts.canonical⟩).outcome = .ok none :=
      instantiationAt_none_iff.symm
    rw [canonicalAt_of_instantiation known instantiation own, Build.outcome_bind,
      isQualifiedInstantiation_iff, otherwise, and_iff_right own]
    cases (fe.instantiationAt fe.partBuilder ⟨site.cursor, facts.canonical⟩).outcome with
    | error stop => simp [bind, Except.bind]
    | ok read =>
      cases read with
      | none => simp [bind, Except.bind, builtCanonical]
      | some t => simp [bind, Except.bind, Build.pure_eq]

/-- An alias is refused exactly if it is read by its name, has no qualifiers, and its canonical
type is another one that is no bare instantiation: it is spelled as an instantiation with
qualifiers, or it is spelled otherwise and built as something else. So it is whenever the canonical
type is spelled without template arguments, be that a builtin type, one made of others or a
class. -/
theorem mismatches_of_alias_iff (spelled : fe.SpelledAsAlias site facts written)
    (built : (fe.required fe.typeBuilder site).outcome = .ok declared)
    (builtCanonical : (fe.required fe.typeBuilder ⟨site.cursor, facts.canonical⟩).outcome =
      .ok canonical) :
    (fe.Mismatches site ↔ fe.IsReadAsSpelled site facts ∧ written.cv = Cv.none ∧
      facts.canonical ≠ site.type ∧ (fe.IsQualifiedInstantiation ⟨site.cursor, facts.canonical⟩ ∨
        fe.SpelledOtherwise ⟨site.cursor, facts.canonical⟩ ∧
          canonical.nodeClass ≠ .instantiation)) ∧
    (fe.IsReadAsSpelled site facts → written.cv = Cv.none → facts.canonical ≠ site.type →
      fe.IsPlainAt ⟨site.cursor, facts.canonical⟩ → (fe.typeAt site).outcome =
        .error (.fault (.canonicalKindMismatch facts.spelling canonical.nodeClass))) := by
  constructor
  · by_cases auto : facts.kind = .auto
    · refine iff_of_false (not_mismatches_of_auto spelled.known auto built) ?_
      exact fun claimed => (kind_of_readAsSpelled claimed.1).2 auto
    · rw [mismatches_iff built, ← and_assoc, ← spelled.nodeClass_iff auto built]
      exact and_congr_right fun instantiation =>
        exists_otherForm_iff spelled.known instantiation builtCanonical
  · intro read unqualified other plain
    have instantiation := (spelled.nodeClass_iff (kind_of_readAsSpelled read).2 built).mpr
      ⟨read, unqualified⟩
    exact typeAt_of_mismatch spelled.known built instantiation
      (canonicalAt_of_plain spelled.known instantiation other plain builtCanonical)
      (nodeClass_of_plain plain builtCanonical)

/-- The alias template `Ptr` and a variable, with two instantiations of `Ptr`, a bare one and a
constant one, for which the frontend has pointers as canonical types. -/
def pointerAliases : Snapshot where
  cursors := #[
    { kind := .typeAliasTemplateDecl, spelling := "Ptr", entity := ⟨"Ptr"⟩ },
    { kind := .varDecl, spelling := "p", entity := ⟨"p"⟩ }]
  types := #[
    { kind := .int, spelling := "int" },
    { kind := .pointer, spelling := "int *", pointee := some (.afterCount 0) },
    { kind := .pointer, spelling := "int *const", pointee := some (.afterCount 0) },
    { kind := .elaborated, spelling := "Ptr<int>", declaration := some (.afterCount 0),
      arguments := some [some (.afterCount 0)], canonical := some (.afterCount 1) },
    { kind := .elaborated, spelling := "const Ptr<int>", declaration := some (.afterCount 0),
      arguments := some [some (.afterCount 0)], canonical := some (.afterCount 2) }]

def pointerAliasText (before : CvText) : InstantiationText where
  before := before
  frontPad := .space
  name := "Ptr".toList
  body := "int".toList
  backPad := .none
  after := .none
  nonempty := by decide
  plain := by decide
  visible := by decide
  apart := by decide
  bare q := by cases q <;> decide
  untagged := by decide

def pointerAliasRecord (before : CvText) (canonical : TypeHandle) : TypeRecord where
  kind := .elaborated
  spelling := String.ofList (pointerAliasText before).text
  declaration := some (.afterCount 0)
  arguments := some [some (.afterCount 0)]
  canonical := some canonical

theorem spelledAsAlias_pointer {h canonical : TypeHandle} {before : CvText}
    (entry : pointerAliases.HasRecord h (pointerAliasRecord before canonical)) :
    pointerAliases.frontend.SpelledAsAlias ⟨.afterCount 1, h⟩
      ((pointerAliasRecord before canonical).facts h) (pointerAliasText before) where
  known := Snapshot.type?_of_hasRecord entry
  template := ⟨_, _, rfl, rfl, rfl, nofun⟩
  spelled := rfl

theorem hasRecord_pointerAlias : pointerAliases.HasRecord (.afterCount 3)
    (pointerAliasRecord .none (.afterCount 1)) := rfl

theorem hasRecord_constantAlias : pointerAliases.HasRecord (.afterCount 4)
    (pointerAliasRecord (.one .const) (.afterCount 2)) := rfl

def pointerToInt : Ty := .ofNode (.pointer (.ofBuiltin .int))

def pointerAlias : Ty :=
  .ofNode (.instantiation ⟨⟨"Ptr"⟩, "Ptr"⟩ (.exposed [.type (.ofBuiltin .int)]))

theorem required_pointerAlias :
    (pointerAliases.frontend.required pointerAliases.frontend.typeBuilder
      ⟨.afterCount 1, .afterCount 3⟩).outcome = .ok pointerAlias := rfl

theorem required_pointerToInt :
    (pointerAliases.frontend.required pointerAliases.frontend.typeBuilder
      ⟨.afterCount 1, .afterCount 1⟩).outcome = .ok pointerToInt := rfl

theorem mismatches_of_alias_iff_pointers :
    let fe := pointerAliases.frontend
    (fe.typeAt ⟨.afterCount 1, .afterCount 3⟩).outcome =
      .error (.fault (.canonicalKindMismatch "Ptr<int>" .pointer)) ∧
    ¬ fe.Mismatches ⟨.afterCount 1, .afterCount 4⟩ := by
  intro fe
  have bare := spelledAsAlias_pointer hasRecord_pointerAlias
  have constant := spelledAsAlias_pointer hasRecord_constantAlias
  constructor
  · have plain : fe.IsPlainAt ⟨.afterCount 1, .afterCount 1⟩ :=
      ⟨_, "int *".toList, rfl, rfl, rfl, by decide⟩
    exact (mismatches_of_alias_iff bare required_pointerAlias required_pointerToInt).2
      (.inl rfl) rfl (by decide) plain
  · have built : (fe.required fe.typeBuilder ⟨.afterCount 1, .afterCount 4⟩).outcome =
        .ok (pointerAlias.qualify ⟨true, false⟩) := rfl
    have builtCanonical : (fe.required fe.typeBuilder ⟨.afterCount 1, .afterCount 2⟩).outcome =
        .ok (pointerToInt.qualify ⟨true, false⟩) := rfl
    intro mismatch
    cases ((mismatches_of_alias_iff constant built builtCanonical).1.mp mismatch).2.1

/-- No alias is refused if both it and its canonical type are built. -/
def AcceptsAliases (fe : Frontend) : Prop :=
  ∀ {site : Site} {facts : TypeFacts} {written : InstantiationText} {declared canonical : Ty},
    fe.SpelledAsAlias site facts written →
    (fe.required fe.typeBuilder site).outcome = .ok declared →
    (fe.required fe.typeBuilder ⟨site.cursor, facts.canonical⟩).outcome = .ok canonical →
    ¬ fe.Mismatches site

theorem not_acceptsAliases_pointers : ¬ pointerAliases.frontend.AcceptsAliases := by
  intro accepts
  have bare := spelledAsAlias_pointer hasRecord_pointerAlias
  exact accepts bare required_pointerAlias required_pointerToInt ⟨"Ptr<int>", .pointer, rfl⟩

end CxxTrees.Frontend
