import CxxTrees.Proofs.Build.Arguments
import CxxTrees.Proofs.Build.Parameters
import CxxTrees.Proofs.Frontend.Links

/-!
# Template template parameters

A name with arguments that belongs to no declared template may be a template template
parameter. Type parameters are searched in all templates around a cursor, but template
template parameters only among the children of the cursor itself: they are found where
this is the template that declares them, and nowhere inside of it
(`instantiation_of_parameter_iff`).
-/

namespace CxxTrees.Frontend
open Text
variable {fe : Frontend} {sub : Builder} {site : Site} {scope template p : Cursor}
  {facts : TypeFacts} {here declared : CursorFacts} {cv : Cv} {name body : List Char}

/-! ### The parameters of a name -/

/-- A cursor is a template template parameter called `name`. -/
def isTemplateParameter (fe : Frontend) (name : List Char) (c : Cursor) : Bool :=
  (fe.cursor? c).any fun facts =>
    facts.kind = .templateTemplateParameter ∧ facts.spelling.toList = name

/-- The template template parameters called `name` that a cursor declares. -/
def templateParameters (fe : Frontend) (scope : Cursor) (name : List Char) : List Cursor :=
  ((fe.cursor? scope).elim [] (·.children)).filter (fe.isTemplateParameter name)

theorem templateParameter_eq (known : fe.cursor? scope = some here)
    (inside : ∀ c ∈ here.children, fe.HasCursor c) :
    fe.templateParameter scope name =
      single (.ambiguousTemplateTemplateParameter (String.ofList name) here.spelling)
        (fe.templateParameters scope name) := by
  rw [templateParameter, templateParameters, known]
  refine onlyChild_eq known fun child member => ?_
  obtain ⟨declared, known'⟩ := inside child member
  rw [namesTemplateParameter, isTemplateParameter, cursor_of_known known', known']
  rfl

/-! ### Where they are declared -/

/-- The innermost template around a cursor that declares a template template parameter called
`name`, along the way on which type parameters are searched. -/
inductive DeclaredAround (fe : Frontend) (name : List Char) : Cursor → Cursor → Prop where
  | nearest {c template : Cursor} (around : fe.templateAround c = .ok (some template))
    (declares : fe.templateParameters template name ≠ []) : DeclaredAround fe name c template
  | outer {c inner parent template : Cursor} {facts : CursorFacts}
    (around : fe.templateAround c = .ok (some inner))
    (absent : fe.templateParameters inner name = []) (known : fe.Parent inner parent)
    (inside : fe.cursor? parent = some facts) (boundary : facts.kind.isScopeBoundary = false)
    (rest : DeclaredAround fe name parent template) : DeclaredAround fe name c template

/-- A template that declares the parameter itself is the innermost one. -/
theorem DeclaredAround.eq_of_templated {c : Cursor} (around : fe.DeclaredAround name c template)
    (known : fe.cursor? c = some here) (templated : here.kind.isDirectlyTemplated = true)
    (declares : fe.templateParameters c name ≠ []) : template = c := by
  have own := templateAround_of_templated known templated
  cases around with
  | nearest around =>
    cases own.symm.trans around
    rfl
  | outer around absent =>
    cases own.symm.trans around
    exact absurd absent declares

/-- A type is spelled as a name with arguments and has no declaration that is a template, and
the cursor it is seen from has its children in the table. -/
structure SpelledAsParameter (fe : Frontend) (site : Site) (facts : TypeFacts) (here : CursorFacts)
    (cv : Cv) (name body : List Char) : Prop where
  known : fe.type? site.type = some facts
  spelled : ∃ spelling tail, fe.leafAt site = .ok (cv, spelling) ∧
    splitName spelling = some (name, tail) ∧ withoutClosing tail = some body
  untemplated : ∀ d, facts.declaration = some d → fe.templateOfDeclaration d = .ok none
  cursor : fe.cursor? site.cursor = some here
  children : ∀ c ∈ here.children, fe.HasCursor c

namespace SpelledAsParameter
variable (spelled : fe.SpelledAsParameter site facts here cv name body)
include spelled

theorem templateAt_eq :
    fe.templateAt site name =
      single (.ambiguousTemplateTemplateParameter (String.ofList name) here.spelling)
        (fe.templateParameters site.cursor name) := by
  rw [← templateParameter_eq spelled.cursor spelled.children]
  unfold templateAt
  rw [look_bind (type_of_known spelled.known)]
  cases declaration : facts.declaration with
  | none => rfl
  | some d =>
    simp only
    rw [look_bind (spelled.untemplated d declaration)]

/-- Without the parameter among the children of the cursor, the name refers to nothing. -/
theorem instantiationAt_absent (absent : fe.templateParameters site.cursor name = []) :
    (fe.instantiationAt sub site).outcome = .ok none := by
  obtain ⟨spelling, tail, leaf, split, closed⟩ := spelled.spelled
  have nothing : fe.templateAt site name = .ok none := by
    rw [spelled.templateAt_eq, absent]
    rfl
  rw [instantiationAt_of_split leaf split closed, lift_bind_of_ok nothing]
  rfl

theorem instantiationAt_single {q : Cursor} {declared : CursorFacts} {arguments : Arguments}
    (single : fe.templateParameters site.cursor name = [q]) (known : fe.cursor? q = some declared)
    (built : (fe.argumentsOf sub q site.type body).outcome = .ok arguments) :
    (fe.instantiationAt sub site).outcome = .ok (some ((Ty.ofNode
      (.instantiation ⟨declared.entity, String.ofList name⟩ arguments)).qualify cv)) := by
  obtain ⟨spelling, tail, leaf, split, closed⟩ := spelled.spelled
  have found : fe.templateAt site name = .ok (some q) := by
    rw [spelled.templateAt_eq, single]
    rfl
  rw [instantiationAt_of_split leaf split closed, lift_bind_of_ok found]
  simp only [lift_bind_of_ok (cursor_of_known known)]
  rw [Build.outcome_bind, built]
  rfl

theorem single_of_instantiationAt {t : Ty}
    (built : (fe.instantiationAt sub site).outcome = .ok (some t)) :
    ∃ q declared arguments, fe.templateParameters site.cursor name = [q] ∧
      fe.cursor? q = some declared ∧ t = (Ty.ofNode
        (.instantiation ⟨declared.entity, String.ofList name⟩ arguments)).qualify cv := by
  obtain ⟨spelling, tail, leaf, split, closed⟩ := spelled.spelled
  rw [instantiationAt_of_split leaf split closed] at built
  obtain ⟨found, resolved, built⟩ := Build.bind_ok built
  have resolved : fe.templateAt site name = .ok found := resolved
  rw [spelled.templateAt_eq] at resolved
  cases list : fe.templateParameters site.cursor name with
  | nil =>
    rw [list] at resolved
    cases resolved
    cases Build.pure_ok built
  | cons q more =>
    cases more with
    | nil =>
      rw [list] at resolved
      cases resolved
      obtain ⟨arguments, _, built⟩ := Build.bind_ok built
      obtain ⟨declared, looked, built⟩ := Build.bind_ok built
      exact ⟨q, declared, arguments, rfl, cursor_ok looked,
        (Option.some.inj (Build.pure_ok built)).symm⟩
    | cons _ _ =>
      rw [list] at resolved
      cases resolved

end SpelledAsParameter

theorem entity_of_qualify {a b : EntityId} {x y : String} {list list' : Arguments}
    (same : (Ty.ofNode (.instantiation ⟨a, x⟩ list)).qualify cv =
      (Ty.ofNode (.instantiation ⟨b, y⟩ list')).qualify cv) : a = b := by
  have node := congrArg Ty.unqualified same
  rw [Ty.unqualified_qualify (by simp [Node.nodeClass]),
    Ty.unqualified_qualify (by simp [Node.nodeClass])] at node
  have declaration := (Node.instantiation.inj (congrArg Ty.node node)).1
  exact congrArg DeclRef.id declaration

/-- The one parameter of a name that the templates around a cursor declare is found just if the
cursor is itself the innermost of them, or is no template and has a cursor of the same entity
among its own children. Where the cursor has none there, the type is no instantiation. -/
theorem instantiation_of_parameter_iff
    (spelled : fe.SpelledAsParameter site facts here cv name body)
    (around : fe.DeclaredAround name site.cursor template)
    (single : fe.templateParameters template name = [p]) (known : fe.cursor? p = some declared)
    (built : ∀ q, fe.templateParameters site.cursor name = [q] →
      ∃ arguments, (fe.argumentsOf sub q site.type body).outcome = .ok arguments) :
    ((∃ arguments, (fe.instantiationAt sub site).outcome = .ok (some ((Ty.ofNode
        (.instantiation ⟨declared.entity, String.ofList name⟩ arguments)).wrapped cv))) ↔
      template = site.cursor ∨ here.kind.isDirectlyTemplated = false ∧
        ∃ q other, fe.templateParameters site.cursor name = [q] ∧ fe.cursor? q = some other ∧
          other.entity = declared.entity) ∧
    (fe.templateParameters site.cursor name = [] →
      (fe.instantiationAt sub site).outcome = .ok none) := by
  simp only [← Ty.qualify_eq]
  refine ⟨⟨?_, ?_⟩, spelled.instantiationAt_absent⟩
  · rintro ⟨arguments, found⟩
    obtain ⟨q, other, arguments', single', known', same⟩ := spelled.single_of_instantiationAt found
    -- A template that declares the name hides all templates around it.
    cases templated : here.kind.isDirectlyTemplated with
    | true =>
      refine .inl (around.eq_of_templated spelled.cursor templated ?_)
      rw [single']
      exact List.cons_ne_nil q []
    | false => exact .inr ⟨rfl, q, other, single', known', (entity_of_qualify same).symm⟩
  · rintro (rfl | ⟨_, q, other, single', known', same⟩)
    · obtain ⟨arguments, built⟩ := built p single
      exact ⟨arguments, spelled.instantiationAt_single single known built⟩
    · obtain ⟨arguments, built⟩ := built q single'
      rw [← same]
      exact ⟨arguments, spelled.instantiationAt_single single' known' built⟩

/-- A template with a template template parameter and a field, and a type that has the parameter as
its template. -/
def wrapped : Snapshot where
  cursors := #[
    { kind := .translationUnit, spelling := "tu.cpp", entity := ⟨"tu"⟩,
      children := [.afterCount 1] },
    { kind := .classTemplate, spelling := "Wrap", entity := ⟨"Wrap"⟩,
      semanticParent := some (.afterCount 0), children := [.afterCount 2, .afterCount 3] },
    { kind := .templateTemplateParameter, spelling := "C", entity := ⟨"Wrap::C"⟩,
      semanticParent := some (.afterCount 1) },
    { kind := .fieldDecl, spelling := "value", entity := ⟨"Wrap::value"⟩,
      semanticParent := some (.afterCount 1) }]
  types := #[{ kind := .unexposed, spelling := "C<int>" }]

/-- From any cursor, the type is seen as a name with arguments. -/
theorem leafAt_wrapped (c : Cursor) :
    wrapped.frontend.leafAt ⟨c, .afterCount 0⟩ = .ok (Cv.none, "C<int>".toList) := by
  have spelling : wrapped.frontend.spellingAt ⟨c, .afterCount 0⟩ = .ok "C<int>".toList := rfl
  rw [leafAt, look_bind spelling]
  rfl

theorem spelledAsParameter_wrapped {c : Cursor} (known : wrapped.frontend.cursor? c = some here)
    (children : ∀ child ∈ here.children, wrapped.frontend.HasCursor child) :
    ∃ facts, wrapped.frontend.SpelledAsParameter ⟨c, .afterCount 0⟩ facts here Cv.none
      "C".toList "int".toList :=
  ⟨_, {
    known := rfl
    spelled := ⟨"C<int>".toList, "int>".toList, leafAt_wrapped c, rfl, rfl⟩
    untemplated := nofun
    cursor := known
    children := children }⟩

theorem spelledAsParameter_template : ∃ here facts, wrapped.frontend.SpelledAsParameter
    ⟨.afterCount 1, .afterCount 0⟩ facts here Cv.none "C".toList "int".toList := by
  refine ⟨_, spelledAsParameter_wrapped rfl fun child member => ?_⟩
  have member : child ∈ [.afterCount 2, .afterCount 3] := member
  obtain rfl | rfl : child = .afterCount 2 ∨ child = .afterCount 3 := by simpa using member
  · exact ⟨_, rfl⟩
  · exact ⟨_, rfl⟩

theorem spelledAsParameter_field : ∃ here facts, wrapped.frontend.SpelledAsParameter
    ⟨.afterCount 3, .afterCount 0⟩ facts here Cv.none "C".toList "int".toList :=
  ⟨_, spelledAsParameter_wrapped rfl nofun⟩

theorem declaredAround_wrapped {c : Cursor}
    (around : wrapped.frontend.templateAround c = .ok (some (.afterCount 1))) :
    wrapped.frontend.DeclaredAround "C".toList c (.afterCount 1) := .nearest around (by decide)

/-- It is found from the template, and not from the field. -/
theorem instantiation_of_parameter_iff_wrapped :
    (∃ arguments, (wrapped.frontend.instantiationAt (wrapped.frontend.builder 1)
        ⟨.afterCount 1, .afterCount 0⟩).outcome = .ok (some (.ofNode
          (.instantiation ⟨⟨"Wrap::C"⟩, "C"⟩ arguments)))) ∧
    (wrapped.frontend.instantiationAt (wrapped.frontend.builder 1)
        ⟨.afterCount 3, .afterCount 0⟩).outcome = .ok none := by
  obtain ⟨here, facts, spelled⟩ := spelledAsParameter_template
  obtain ⟨here', facts', spelled'⟩ := spelledAsParameter_field
  have built (q : Cursor) : ∃ arguments, (wrapped.frontend.argumentsOf
      (wrapped.frontend.builder 1) q (.afterCount 0) "int".toList).outcome = .ok arguments :=
    ⟨_, rfl⟩
  exact ⟨(instantiation_of_parameter_iff spelled (declaredAround_wrapped rfl) rfl rfl
      fun q _ => built q).1.mpr (.inl rfl),
    (instantiation_of_parameter_iff spelled' (declaredAround_wrapped rfl) rfl rfl
      fun q _ => built q).2 rfl⟩

/-- A parameter that the templates around a cursor declare once is found from the cursor. -/
def FindsTemplateParameters (fe : Frontend) : Prop :=
  ∀ (sub : Builder) {site : Site} {facts : TypeFacts} {here declared : CursorFacts} {cv : Cv}
    {name body : List Char} {template p : Cursor} {arguments : Arguments},
    fe.SpelledAsParameter site facts here cv name body →
    fe.DeclaredAround name site.cursor template → fe.templateParameters template name = [p] →
    fe.cursor? p = some declared →
    (fe.argumentsOf sub p site.type body).outcome = .ok arguments →
    ∃ arguments, (fe.instantiationAt sub site).outcome = .ok (some ((Ty.ofNode
      (.instantiation ⟨declared.entity, String.ofList name⟩ arguments)).wrapped cv))

theorem not_findsTemplateParameters_wrapped : ¬ wrapped.frontend.FindsTemplateParameters := by
  intro finds
  obtain ⟨here, facts, spelled⟩ := spelledAsParameter_field
  obtain ⟨arguments, found⟩ := finds (wrapped.frontend.builder 1) spelled
    (declaredAround_wrapped rfl) rfl rfl rfl
  cases (spelled.instantiationAt_absent rfl).symm.trans found

end CxxTrees.Frontend
