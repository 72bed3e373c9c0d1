import CxxTrees.Proofs.Build.Parameters
import CxxTrees.Proofs.Build.Parts
import CxxTrees.Proofs.Snapshot.Links

/-!
# Template type parameters

A name that the frontend knows nothing about may be a type parameter of a template around
the cursor. The search climbs from template to template and starts again at the semantic
parent of each, which may be a namespace. Where namespaces lie in nothing but namespaces and
translation units, it comes to the same as a look at the templates on the way outwards, one
after the other, of which the first that declares the name decides
(`parameterAt_eq_firstDeclared`).
-/

namespace CxxTrees.Frontend
variable {fe : Frontend} {site : Site} {c parent template : Cursor} {facts : CursorFacts}
  {scopes : List Cursor} {name : List Char}

/-! ### The way outwards -/

def isTemplate (fe : Frontend) (c : Cursor) : Bool :=
  (fe.cursor? c).any (·.kind.isDirectlyTemplated)

/-- A cursor is a namespace or a translation unit. -/
def isBoundary (fe : Frontend) (c : Cursor) : Bool := (fe.cursor? c).any (·.kind.isScopeBoundary)

/-- Namespaces lie in namespaces and translation units alone, and translation units in nothing. -/
structure WellScoped (fe : Frontend) : Prop where
  spaces : ∀ {c parent facts}, fe.cursor? c = some facts → facts.kind = .«namespace» →
    facts.semanticParent = some parent → fe.isBoundary parent = true
  units : ∀ {c facts}, fe.cursor? c = some facts → facts.kind = .translationUnit →
    facts.semanticParent = none

/-- The cursors on the way up the semantic parents, from `c` itself to the last one before a step
would enter a namespace or a translation unit. -/
inductive Outwards (fe : Frontend) : Cursor → List Cursor → Prop where
  | last {c : Cursor} {facts : CursorFacts} (known : fe.cursor? c = some facts)
      (ends : ∀ parent, facts.semanticParent = some parent → fe.isBoundary parent = true) :
      Outwards fe c [c]
  | step {c parent : Cursor} {scopes : List Cursor} (link : fe.Parent c parent)
      (inner : fe.isBoundary parent = false) (rest : Outwards fe parent scopes) :
      Outwards fe c (c :: scopes)

theorem isTemplate_of_known (known : fe.cursor? c = some facts) :
    fe.isTemplate c = facts.kind.isDirectlyTemplated := by
  rw [isTemplate, known]
  rfl

theorem isBoundary_of_known (known : fe.cursor? c = some facts) :
    fe.isBoundary c = facts.kind.isScopeBoundary := by
  rw [isBoundary, known]
  rfl

theorem outwards_unique {other : List Cursor} (path : fe.Outwards c scopes)
    (path' : fe.Outwards c other) : scopes = other := by
  induction path generalizing other with
  | last known ends =>
    cases path' with
    | last => rfl
    | step link inner =>
      obtain ⟨facts, known', link⟩ := link
      obtain rfl := Option.mem_unique known known'
      cases inner.symm.trans (ends _ link)
  | step link inner _ ih =>
    obtain ⟨facts, known, link⟩ := link
    cases path' with
    | last known' ends =>
      obtain rfl := Option.mem_unique known known'
      cases inner.symm.trans (ends _ link)
    | step link' _ rest =>
      obtain ⟨facts', known', link'⟩ := link'
      obtain rfl := Option.mem_unique known known'
      obtain rfl := Option.mem_unique link link'
      rw [ih rest]

theorem exists_outwards (closed : fe.Closed) (acyclic : ∀ c, ¬ Relation.TransGen fe.Parent c c)
    (here : fe.HasCursor c) : ∃ scopes, fe.Outwards c scopes := by
  -- The height along parents falls with each step.
  induction height : Handle.height fe.Parent fe.cursorCount c using Nat.strong_induction_on
    generalizing c with
  | _ n ih =>
    obtain ⟨facts, known⟩ := here
    cases link : facts.semanticParent with
    | none => exact ⟨[c], .last known (by rw [link]; nofun)⟩
    | some parent =>
      cases boundary : fe.isBoundary parent with
      | true =>
        refine ⟨[c], .last known fun other link' => ?_⟩
        obtain rfl := Option.some.inj (link.symm.trans link')
        exact boundary
      | false =>
        have step : fe.Parent c parent := ⟨facts, known, link⟩
        have lower := Handle.height_lt_of_path acyclic (index_lt_of_hasCursor ⟨facts, known⟩)
          (.single step)
        obtain ⟨scopes, rest⟩ := ih _ (height ▸ lower) (closed.named known (.parent link)) rfl
        exact ⟨c :: scopes, .step step boundary rest⟩

theorem Outwards.hasCursor (path : fe.Outwards c scopes) : fe.HasCursor c := by
  cases path with
  | last known => exact ⟨_, known⟩
  | step link =>
    obtain ⟨facts, known, _⟩ := link
    exact ⟨facts, known⟩

theorem Outwards.length_le (acyclic : ∀ c, ¬ Relation.TransGen fe.Parent c c)
    (path : fe.Outwards c scopes) : scopes.length ≤ Handle.height fe.Parent fe.cursorCount c := by
  induction path with
  | @last c _ known _ =>
    have inside := index_lt_of_hasCursor ⟨_, known⟩
    exact Finset.card_pos.mpr ⟨c.index, Handle.mem_reach.mpr ⟨inside, c, rfl, .refl⟩⟩
  | step link _ _ ih =>
    have ⟨facts, known, _⟩ := link
    have lower := Handle.height_lt_of_path acyclic (index_lt_of_hasCursor ⟨facts, known⟩)
      (.single link)
    rw [List.length_cons]
    omega

/-- The climb to the nearest template ends at the first one on the way. -/
theorem templateAroundWithin_eq {limit : Nat} (path : fe.Outwards c scopes)
    (enough : scopes.length ≤ limit) :
    fe.templateAroundWithin limit c = .ok (scopes.find? fe.isTemplate) := by
  induction path generalizing limit with
  | @last c facts known ends =>
    obtain ⟨limit, rfl⟩ := Nat.exists_eq_add_one.mpr enough
    unfold templateAroundWithin
    rw [look_bind (cursor_of_known known), List.find?_cons, isTemplate_of_known known]
    cases facts.kind.isDirectlyTemplated with
    | true => rfl
    | false =>
      cases link : facts.semanticParent with
      | none => rfl
      | some parent =>
        have boundary := ends parent link
        simp only [isBoundary, Option.any_eq_true] at boundary
        obtain ⟨above, known', boundary⟩ := boundary
        simp [cursor_of_known known', boundary, bind, Except.bind, pure, Except.pure]
  | @step c parent scopes link inner rest ih =>
    obtain ⟨facts, known, link⟩ := link
    obtain ⟨limit, rfl⟩ := Nat.exists_eq_add_one.mpr (Nat.zero_lt_of_lt enough)
    unfold templateAroundWithin
    rw [look_bind (cursor_of_known known), List.find?_cons, isTemplate_of_known known]
    cases facts.kind.isDirectlyTemplated with
    | true => rfl
    | false =>
      obtain ⟨above, known'⟩ := rest.hasCursor
      rw [isBoundary_of_known known'] at inner
      have further := ih (Nat.le_of_succ_le_succ enough)
      simp [link, cursor_of_known known', inner, bind, Except.bind, further]

/-! ### The parameters of a name -/

/-- A cursor is a template type parameter called `name`. -/
def isTypeParameter (fe : Frontend) (name : List Char) (c : Cursor) : Bool :=
  (fe.cursor? c).any (·.kind = .templateTypeParameter) &&
    (fe.parameterName c).toOption = some name

/-- The template type parameters called `name` that a cursor declares. -/
def typeParameters (fe : Frontend) (name : List Char) (template : Cursor) : List Cursor :=
  ((fe.cursor? template).elim [] (·.children)).filter (fe.isTypeParameter name)

/-- The type parameter that a template declares under a name, in a node for the qualifiers
written around the name, if there are any. -/
def declaredIn (fe : Frontend) (leaf : Cv × List Char) (template : Cursor) :
    Except Stop (Option Ty) := do
  let name := String.ofList leaf.2
  let fault := Fault.ambiguousTemplateParameter name (← fe.cursor template).spelling
  match ← single fault (fe.typeParameters leaf.2 template) with
  | none => return none
  | some p =>
    return some ((Ty.ofNode (.templateParameter ⟨(← fe.cursor p).entity, name⟩)).wrapped leaf.1)

/-- What the first of several templates declares that declares a name at all. -/
def firstDeclared (fe : Frontend) (leaf : Cv × List Char) (templates : List Cursor) :
    Except Stop (Option Ty) :=
  match templates.find? fun t => fe.typeParameters leaf.2 t ≠ [] with
  | none => .ok none
  | some template => fe.declaredIn leaf template

theorem exists_spellingAt (closed : fe.Closed) (here : fe.HasCursor site.cursor)
    (typed : fe.HasType site.type) : ∃ text, fe.spellingAt site = .ok text := by
  obtain ⟨type, known⟩ := typed
  obtain ⟨facts, known'⟩ := here
  obtain ⟨found, local_⟩ : ∃ found, fe.isLocalTypedef site = .ok found := by
    unfold isLocalTypedef
    rw [look_bind (type_of_known known)]
    split
    · exact ⟨_, rfl⟩
    · cases link : type.declaration with
      | none => exact ⟨_, rfl⟩
      | some d =>
        obtain ⟨declared, known''⟩ := closed.declaration known link
        simp only
        rw [look_bind (cursor_of_known known''), look_bind (cursor_of_known known')]
        exact ⟨_, rfl⟩
  exact ⟨_, spellingAt_eq known local_⟩

theorem exists_parameterName (closed : fe.Closed) (known : fe.cursor? c = some facts) :
    ∃ own, fe.parameterName c = .ok own := by
  unfold parameterName
  rw [look_bind (cursor_of_known known)]
  cases link : facts.type with
  | none => exact ⟨_, rfl⟩
  | some type => exact exists_spellingAt closed ⟨facts, known⟩ (closed.typed known link)

theorem typeParameter_eq (closed : fe.Closed) (known : fe.cursor? template = some facts) :
    fe.typeParameter template name =
      single (.ambiguousTemplateParameter (String.ofList name) facts.spelling)
        (fe.typeParameters name template) := by
  rw [typeParameter, typeParameters, known]
  refine onlyChild_eq known fun child member => ?_
  obtain ⟨declared, known'⟩ := closed.named known (.child member)
  obtain ⟨own, named⟩ := exists_parameterName closed known'
  unfold namesTypeParameter isTypeParameter
  rw [look_bind (cursor_of_known known'), known', named]
  by_cases kind : declared.kind = .templateTypeParameter
  · simp [kind, bind, Except.bind, pure, Except.pure, Except.toOption]
  · simp [kind, pure, Except.pure]

/-! ### The search -/

theorem leafAt_of_textual {type : TypeFacts} (known : fe.type? site.type = some type)
    (textual : type.kind = .unexposed ∨ type.kind = .dependent) :
    fe.leafAt site = .ok (Spelling.leaf type.spelling.toList) := by
  have other : type.kind ≠ .typedef := by
    rcases textual with kind | kind <;> rw [kind] <;> nofun
  rw [leafAt, look_bind (spellingAt_of_known known other)]
  rfl

theorem parameterOf_eq (closed : fe.Closed) {leaf : Cv × List Char}
    (spelled : fe.leafAt site = .ok leaf) (known : fe.cursor? template = some facts) :
    fe.parameterOf site template = fe.declaredIn leaf template := by
  obtain ⟨cv, name⟩ := leaf
  unfold parameterOf declaredIn
  rw [look_bind spelled, look_bind (cursor_of_known known)]
  dsimp only
  rw [typeParameter_eq closed known]
  refine bind_congr fun parameter => ?_
  cases parameter with
  | none => rfl
  | some p => simp only [Ty.qualify_eq]

theorem hasCursor_of_mem {p : Cursor} (member : p ∈ fe.typeParameters name template) :
    fe.HasCursor p := by
  have parameter := (List.mem_filter.mp member).2
  simp only [isTypeParameter, Bool.and_eq_true, Option.any_eq_true] at parameter
  obtain ⟨⟨facts, known, _⟩, _⟩ := parameter
  exact ⟨facts, known⟩

/-- A template that declares a name has an answer to it, which may be a fault. -/
theorem declaredIn_cases (leaf : Cv × List Char) (known : fe.cursor? template = some facts) :
    fe.typeParameters leaf.2 template = [] ∧ fe.declaredIn leaf template = .ok none ∨
      fe.typeParameters leaf.2 template ≠ [] ∧
        ((∃ t, fe.declaredIn leaf template = .ok (some t)) ∨
          ∃ stop, fe.declaredIn leaf template = .error stop) := by
  unfold declaredIn
  rw [look_bind (cursor_of_known known)]
  cases list : fe.typeParameters leaf.2 template with
  | nil => exact .inl ⟨rfl, rfl⟩
  | cons p more =>
    refine .inr ⟨List.cons_ne_nil p more, ?_⟩
    cases more with
    | nil =>
      obtain ⟨declared, known'⟩ := hasCursor_of_mem (list ▸ List.mem_cons_self)
      rw [look_bind (show single _ [p] = .ok (some p) from rfl)]
      simp only
      rw [look_bind (cursor_of_known known')]
      exact .inl ⟨_, rfl⟩
    | cons _ _ => exact .inr ⟨_, rfl⟩

theorem firstDeclared_cons (leaf : Cv × List Char) (t : Cursor) (templates : List Cursor) :
    fe.firstDeclared leaf (t :: templates) =
      if fe.typeParameters leaf.2 t = [] then fe.firstDeclared leaf templates
      else fe.declaredIn leaf t := by
  unfold firstDeclared
  rw [List.find?_cons]
  by_cases absent : fe.typeParameters leaf.2 t = [] <;> simp [absent]

section Search
variable {type : TypeHandle} {leaf : Cv × List Char} {limit : Nat}

/-- The search asks the nearest template, and goes on at its semantic parent. -/
theorem parameterWithin_around (closed : fe.Closed)
    (spelled : ∀ c, fe.leafAt ⟨c, type⟩ = .ok leaf)
    (around : fe.templateAround c = .ok (some template)) (known : fe.cursor? template = some facts) :
    fe.parameterWithin type (limit + 1) c =
      if fe.typeParameters leaf.2 template = [] then
        facts.semanticParent.elim (.ok none) (fe.parameterWithin type limit)
      else fe.declaredIn leaf template := by
  unfold parameterWithin
  rw [look_bind around]
  simp only
  rw [parameterOf_eq closed (spelled c) known]
  rcases declaredIn_cases leaf known with ⟨absent, answer⟩ | ⟨declares, ⟨t, answer⟩ | ⟨stop, answer⟩⟩
  · rw [if_pos absent, look_bind answer]
    simp only
    rw [look_bind (cursor_of_known known)]
    cases facts.semanticParent <;> rfl
  · rw [if_neg declares, answer]
    rfl
  · rw [if_neg declares, answer]
    rfl

/-- The search depends on the cursor by the nearest template alone. -/
theorem parameterWithin_congr (spelled : ∀ c, fe.leafAt ⟨c, type⟩ = .ok leaf)
    (same : fe.templateAround c = fe.templateAround parent) :
    fe.parameterWithin type limit c = fe.parameterWithin type limit parent := by
  have alike (t : Cursor) : fe.parameterOf ⟨c, type⟩ t = fe.parameterOf ⟨parent, type⟩ t := by
    unfold parameterOf
    rw [spelled, spelled]
  cases limit with
  | zero => rfl
  | succ limit => simp only [parameterWithin, same, alike]

theorem outwards_boundary (layered : fe.WellScoped) (boundary : fe.isBoundary c = true) :
    fe.Outwards c [c] ∧ fe.isTemplate c = false := by
  simp only [isBoundary, Option.any_eq_true] at boundary
  obtain ⟨facts, known, boundary⟩ := boundary
  have kind : facts.kind = .«namespace» ∨ facts.kind = .translationUnit := by
    simpa [CursorKind.isScopeBoundary] using boundary
  constructor
  · refine .last known fun parent link => ?_
    rcases kind with space | unit
    · exact layered.spaces known space link
    · cases link.symm.trans (layered.units known unit)
  · rw [isTemplate_of_known known]
    rcases kind with kind | kind <;> rw [kind] <;> rfl

variable (acyclic : ∀ c, ¬ Relation.TransGen fe.Parent c c)
include acyclic

theorem templateAround_eq (path : fe.Outwards c scopes) :
    fe.templateAround c = .ok (scopes.find? fe.isTemplate) := by
  have length := (path.length_le acyclic).trans Handle.height_le
  exact templateAroundWithin_eq path (Nat.le_succ_of_le length)

/-- A search that starts again in a namespace, or in a translation unit, finds nothing there. -/
theorem parameterWithin_boundary (layered : fe.WellScoped) (boundary : fe.isBoundary c = true) :
    fe.parameterWithin type (limit + 1) c = .ok none := by
  obtain ⟨path, other⟩ := outwards_boundary layered boundary
  have around := templateAround_eq acyclic path
  rw [List.find?_cons, other] at around
  unfold parameterWithin
  rw [look_bind around]
  rfl

theorem parameterWithin_eq (closed : fe.Closed) (layered : fe.WellScoped)
    (spelled : ∀ c, fe.leafAt ⟨c, type⟩ = .ok leaf) (path : fe.Outwards c scopes)
    (enough : scopes.length < limit) :
    fe.parameterWithin type limit c = fe.firstDeclared leaf (scopes.filter fe.isTemplate) := by
  induction path generalizing limit with
  | @last c facts known ends =>
    obtain ⟨limit, rfl⟩ := Nat.exists_eq_add_of_lt enough
    have around := templateAround_eq acyclic (.last known ends)
    cases template : fe.isTemplate c with
    | false =>
      rw [List.find?_cons, template] at around
      unfold parameterWithin
      rw [look_bind around, List.filter_cons_of_neg (by simp [template])]
      rfl
    | true =>
      rw [List.find?_cons, template] at around
      rw [parameterWithin_around closed spelled around known,
        List.filter_cons_of_pos template, firstDeclared_cons]
      congr 1
      cases link : facts.semanticParent with
      | none => rfl
      | some parent =>
        show fe.parameterWithin type (1 + limit) parent = _
        rw [Nat.add_comm, parameterWithin_boundary acyclic layered (ends parent link)]
        rfl
  | @step c parent scopes link inner rest ih =>
    have around := templateAround_eq acyclic (.step link inner rest)
    have enough' : scopes.length < limit := Nat.lt_of_succ_lt enough
    obtain ⟨facts, known, link⟩ := link
    cases template : fe.isTemplate c with
    | false =>
      rw [List.find?_cons, template, ← templateAround_eq acyclic rest] at around
      rw [List.filter_cons_of_neg (by simp [template]), ← ih enough']
      exact parameterWithin_congr spelled around
    | true =>
      obtain ⟨limit, rfl⟩ := Nat.exists_eq_add_one.mpr (Nat.zero_lt_of_lt enough)
      rw [List.find?_cons, template] at around
      rw [parameterWithin_around closed spelled around known,
        List.filter_cons_of_pos template, firstDeclared_cons, link]
      congr 1
      exact ih (Nat.lt_of_succ_lt_succ enough)

end Search

theorem firstDeclared_append {leaf : Cv × List Char} {inner : List Cursor}
    (declares : ∃ t ∈ inner, fe.typeParameters leaf.2 t ≠ []) (outer : List Cursor) :
    fe.firstDeclared leaf (inner ++ outer) = fe.firstDeclared leaf inner := by
  unfold firstDeclared
  obtain ⟨t, member, declares⟩ := declares
  have found : (inner.find? fun t => fe.typeParameters leaf.2 t ≠ []).isSome = true := by
    rw [List.find?_isSome]
    exact ⟨t, member, by simpa using declares⟩
  rw [List.find?_append, Option.or_of_isSome found]

/-- A name is the type parameter that the first template around the cursor declares that declares
one of the name: with the qualifiers around the name if there is one, and a fault if there are
more. If no template declares one, it is none. Templates further out make no difference. -/
theorem parameterAt_eq_firstDeclared (site : Site) {type : TypeFacts} (closed : fe.Closed)
    (acyclic : ∀ c, ¬ Relation.TransGen fe.Parent c c) (layered : fe.WellScoped)
    (here : fe.HasCursor site.cursor) (known : fe.type? site.type = some type)
    (textual : type.kind = .unexposed ∨ type.kind = .dependent) :
    ∃ scopes, fe.Outwards site.cursor scopes ∧
      (∀ other, fe.Outwards site.cursor other → other = scopes) ∧
      fe.parameterAt site =
        fe.firstDeclared (Spelling.leaf type.spelling.toList) (scopes.filter fe.isTemplate) ∧
      ∀ inner outer, scopes.filter fe.isTemplate = inner ++ outer →
        (∃ t ∈ inner, fe.typeParameters (Spelling.leaf type.spelling.toList).2 t ≠ []) →
        fe.parameterAt site = fe.firstDeclared (Spelling.leaf type.spelling.toList) inner := by
  obtain ⟨scopes, path⟩ := exists_outwards closed acyclic here
  have length := (path.length_le acyclic).trans Handle.height_le
  have searched : fe.parameterAt site =
      fe.firstDeclared (Spelling.leaf type.spelling.toList) (scopes.filter fe.isTemplate) :=
    parameterWithin_eq acyclic closed layered (fun c => leafAt_of_textual known textual) path
      (Nat.lt_succ_of_le length)
  refine ⟨scopes, path, fun other path' => outwards_unique path' path, searched, ?_⟩
  intro inner outer parts declares
  rw [searched, parts, firstDeclared_append declares]

/-- A template that declares `T` twice, in a namespace, and a template inside of it that declares
`T` once more, with a field. -/
def shadowing : Snapshot where
  cursors := #[
    { kind := .translationUnit, spelling := "tu.cpp", entity := ⟨"tu"⟩,
      children := [.afterCount 1] },
    { kind := .«namespace», spelling := "ns", entity := ⟨"ns"⟩,
      semanticParent := some (.afterCount 0), children := [.afterCount 2] },
    { kind := .classTemplate, spelling := "Outer", entity := ⟨"Outer"⟩,
      semanticParent := some (.afterCount 1),
      children := [.afterCount 3, .afterCount 4, .afterCount 5] },
    { kind := .templateTypeParameter, spelling := "T", entity := ⟨"Outer::T"⟩,
      semanticParent := some (.afterCount 2) },
    { kind := .templateTypeParameter, spelling := "T", entity := ⟨"Outer::T again"⟩,
      semanticParent := some (.afterCount 2) },
    { kind := .classTemplate, spelling := "Inner", entity := ⟨"Inner"⟩,
      semanticParent := some (.afterCount 2), children := [.afterCount 6, .afterCount 7] },
    { kind := .templateTypeParameter, spelling := "", entity := ⟨"Inner::T"⟩,
      type := some (.afterCount 0), semanticParent := some (.afterCount 5) },
    { kind := .fieldDecl, spelling := "value", entity := ⟨"value"⟩,
      semanticParent := some (.afterCount 5) }]
  types := #[
    { kind := .unexposed, spelling := "T" },
    { kind := .unexposed, spelling := "const T" }]

theorem wellScoped_shadowing : shadowing.frontend.WellScoped := by
  have each : ∀ facts ∈ shadowing.cursors.toList, facts.kind.isScopeBoundary = true →
      ∀ parent ∈ facts.semanticParent,
        facts.kind = .«namespace» ∧ shadowing.frontend.isBoundary parent = true := by decide
  constructor
  case spaces =>
    intro c parent facts known space link
    exact (each facts (Snapshot.cursor_mem known) (by rw [space]; rfl) parent link).2
  case units =>
    intro c facts known unit
    refine Option.eq_none_iff_forall_ne_some.mpr fun parent link => ?_
    have space := (each facts (Snapshot.cursor_mem known) (by rw [unit]; rfl) parent link).1
    cases space.symm.trans unit

theorem outwards_shadowing : shadowing.frontend.Outwards (.afterCount 7)
    [.afterCount 7, .afterCount 5, .afterCount 2] := by
  refine .step ⟨_, rfl, rfl⟩ rfl (.step ⟨_, rfl, rfl⟩ rfl (.last rfl fun parent link => ?_))
  cases link
  rfl

/-- The two parameters further out are a fault by themselves, and make no difference. -/
theorem parameterAt_eq_firstDeclared_shadowing :
    shadowing.frontend.Closed ∧ (∀ c, ¬ Relation.TransGen shadowing.frontend.Parent c c) ∧
    shadowing.frontend.WellScoped ∧ shadowing.frontend.HasCursor (.afterCount 7) ∧
    shadowing.frontend.parameterAt ⟨.afterCount 7, .afterCount 1⟩ = .ok (some
      (.ofNode (.qualified (.ofNode (.templateParameter ⟨⟨"Inner::T"⟩, "T"⟩))
        { isConst := true }))) ∧
    shadowing.frontend.declaredIn ({ isConst := true }, "T".toList) (.afterCount 2) =
      .error (.fault (.ambiguousTemplateParameter "T" "Outer")) := by
  have closed : shadowing.frontend.Closed := Snapshot.frontend_closed (by decide)
  have acyclic : shadowing.frontend.Acyclic := Snapshot.acyclic_of_ordered (by decide)
  have here : shadowing.frontend.HasCursor (.afterCount 7) := ⟨_, rfl⟩
  obtain ⟨scopes, _, unique, _, nearest⟩ := parameterAt_eq_firstDeclared
    ⟨.afterCount 7, .afterCount 1⟩ closed acyclic.parents wellScoped_shadowing here rfl (.inl rfl)
  obtain rfl := unique _ outwards_shadowing
  have found := nearest [.afterCount 5] [.afterCount 2] rfl ⟨_, List.mem_cons_self, by decide⟩
  exact ⟨closed, acyclic.parents, wellScoped_shadowing, here, found.trans rfl, rfl⟩

end CxxTrees.Frontend
