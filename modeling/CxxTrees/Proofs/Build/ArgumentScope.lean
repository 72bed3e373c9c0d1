import CxxTrees.Proofs.Build.Node
import CxxTrees.Proofs.Build.Parts
import CxxTrees.Snapshot.Basic

/-!
# Scopes of template arguments

A name in the argument list of an instantiation is looked up from the template,
and not from where the instantiation is written. A parameter of the template
that goes by the same name captures it.
-/

namespace CxxTrees.Frontend
variable {fe : Frontend} {sub : Builder} {site : Site} {template : Cursor}
  {type h : TypeHandle} {facts : TypeFacts} {depth : Nat} {p q : Ty}

/-- Looked at from a site, a type is the template parameter `p`. -/
inductive ReadsParameter (fe : Frontend) : Site → Ty → Prop where
  | text {site : Site} {facts : TypeFacts} {p : Ty} (known : fe.type? site.type = some facts)
      (kind : facts.kind.isTextual = true) (only : ¬ fe.ReadsOtherwise site)
      (unspelled : ¬ fe.SpellsInstantiation site) (found : fe.parameterAt site = .ok (some p)) :
      ReadsParameter fe site p
  | deduced {site : Site} {other : TypeHandle} {p : Ty} (known : fe.DeducedAs site.type other)
      (reads : ReadsParameter fe { site with type := other } p) : ReadsParameter fe site p

theorem readsParameter_of_node (h : ((fe.builder depth).node site).outcome = .ok (some p))
    (parameter : p.unqualified.nodeClass = .templateParameter) : fe.ReadsParameter site p := by
  induction depth generalizing site with
  | zero => cases h
  | succ depth ih =>
    obtain ⟨facts, known⟩ := nodeAt_known h
    have notInstantiation {sub : Builder}
        (built : (fe.instantiationAt sub site).outcome = .ok (some p)) : False := by
      cases parameter.symm.trans (instantiationAt_some built).2.2
    cases nodeAt_ok known h with
    | exposed _ plain => exact absurd parameter (Ty.nodeClass_of_isPlain plain).2
    | instantiation _ _ built => exact (notInstantiation built).elim
    | userDefined _ _ plain => exact absurd parameter (Ty.nodeClass_of_isPlain plain).2
    | text kind read =>
      cases read with
      | other _ plain => exact absurd parameter (Ty.nodeClass_of_isPlain plain).2
      | instantiation _ _ built => exact (notInstantiation built).elim
      | parameter only unspelled found => exact .text known kind only unspelled found
      | text => cases parameter
    | auto _ _ plain => exact absurd parameter (Ty.nodeClass_of_isPlain plain).2
    | deduced known' built => exact .deduced known' (ih built)

theorem readsParameter_class (reads : fe.ReadsParameter site p) :
    p.unqualified.nodeClass = .templateParameter := by
  induction reads with
  | text _ _ _ _ found => exact (parameterAt_some found).2
  | deduced _ _ ih => exact ih

theorem node_of_readsParameter {answer : Option Ty} (reads : fe.ReadsParameter site p)
    (h : ((fe.builder depth).node site).outcome = .ok answer) : answer = some p := by
  induction reads generalizing depth with
  | text known kind only unspelled found =>
    obtain ⟨inner, _, h⟩ := builder_node_ok h
    obtain ⟨t, rfl, read⟩ := nodeAt_textual known kind h
    cases read with
    | other otherwise _ => exact absurd otherwise only
    | instantiation _ spelled _ => exact absurd spelled unspelled
    | parameter _ _ found' =>
      cases found.symm.trans found'
      rfl
    | text _ _ unknown _ => cases found.symm.trans unknown
  | deduced known _ ih =>
    obtain ⟨inner, _, h⟩ := builder_node_ok h
    exact ih (nodeAt_deduced known h)

/-! ### Arguments -/

theorem argumentsFrom_getElem? {index i : Nat} {texts : List (List Char)} {list : List Argument}
    {argument : Argument}
    (h : (fe.argumentsFrom sub template type index texts).outcome = .ok list)
    (place : list[i]? = some argument) :
    ∃ text, (fe.argumentAt sub template type (index + i) text).outcome = .ok argument := by
  obtain ⟨text, _, built⟩ := (argumentsFrom_ok h).2 i argument place
  exact ⟨text, built⟩

/-- What was read as a type is no number or text, unless it is blank. -/
theorem argument_of_type {t : Ty} {text : List Char} (read : t.unqualified.nodeClass ≠ .unexposed) :
    (if t.isBlankUnexposed then argumentOfText text else .type t) = .type t := by
  rw [if_neg]
  intro blank
  exact read (Ty.nodeClass_of_isBlankUnexposed blank)

/-- An argument is just the parameter that its type is when looked at from the template. -/
theorem argumentAt_parameter {index : Nat} {text : List Char} {argument : Argument}
    (known : fe.type? type = some facts) (handle : facts.argument index = some h)
    (built : (fe.argumentAt (fe.builder depth) template type index text).outcome = .ok argument) :
    argument = .type q ∧ q.unqualified.nodeClass = .templateParameter ↔
      ¬ fe.SpellsInstantiation ⟨template, h⟩ ∧ fe.ReadsParameter ⟨template, h⟩ q := by
  unfold argumentAt at built
  obtain ⟨facts', looked, built⟩ := Build.bind_ok built
  obtain rfl := Option.mem_unique known (type_ok looked)
  simp only [handle] at built
  obtain ⟨answer, instantiated, built⟩ := Build.bind_ok built
  obtain ⟨_, _, instantiated⟩ := builder_instantiation_ok instantiated
  cases answer with
  | some t =>
    obtain ⟨_, same, built⟩ := Build.bind_ok built
    obtain rfl := Build.pure_ok same
    obtain ⟨spelled, _, nodeClass⟩ := instantiationAt_some instantiated
    have built := Build.pure_ok built
    simp only [argument_of_type (t := t) (by simp [nodeClass])] at built
    constructor
    · intro parameter
      obtain ⟨rfl, parameter⟩ := parameter
      obtain rfl := Argument.type.inj built
      cases nodeClass.symm.trans parameter
    · intro reads
      exact absurd spelled reads.1
  | none =>
    have unspelled := instantiationAt_none instantiated
    obtain ⟨answer, node, built⟩ := Build.bind_ok built
    have built := Build.pure_ok built
    constructor
    · intro parameter
      obtain ⟨rfl, parameter⟩ := parameter
      have same : answer = some q := by
        cases answer with
        | none => cases built
        | some t =>
          simp only at built
          split at built
          · cases built
          · rw [Argument.type.inj built]
      rw [same] at node
      exact ⟨unspelled, readsParameter_of_node node parameter⟩
    · intro reads
      have parameter := readsParameter_class reads.2
      obtain rfl := node_of_readsParameter reads.2 node
      rw [← built]
      exact ⟨argument_of_type (by simp [parameter]), parameter⟩

/-- A template declares the parameter `q` that a type is the name of. -/
def Captures (fe : Frontend) (template : Cursor) (type : TypeHandle) (q : Ty) : Prop :=
  ∃ facts templateFacts, fe.type? type = some facts ∧ facts.kind.isTextual = true ∧
    ¬ fe.ReadsOtherwise ⟨template, type⟩ ∧ ¬ fe.SpellsInstantiation ⟨template, type⟩ ∧
    fe.cursor? template = some templateFacts ∧
    templateFacts.kind.isDirectlyTemplated = true ∧
    fe.parameterOf ⟨template, type⟩ template = .ok (some q)

/-- The parameters that a template declares itself come before all others around it. -/
theorem parameterAt_of_own {templateFacts : CursorFacts}
    (known : fe.cursor? template = some templateFacts)
    (templated : templateFacts.kind.isDirectlyTemplated = true)
    (own : fe.parameterOf ⟨template, h⟩ template = .ok (some q)) :
    fe.parameterAt ⟨template, h⟩ = .ok (some q) := by
  have around := templateAround_of_templated known templated
  unfold parameterAt climbLimit parameterWithin
  simp only [around, own, bind, Except.bind]
  rfl

theorem readsParameter_of_captures (captures : fe.Captures template h q) :
    ¬ fe.SpellsInstantiation ⟨template, h⟩ ∧ fe.ReadsParameter ⟨template, h⟩ q := by
  obtain ⟨facts, templateFacts, known, kind, only, unspelled, cursor, templated, own⟩ := captures
  exact ⟨unspelled, .text known kind only unspelled (parameterAt_of_own cursor templated own)⟩

/-- A template `Outer<T>` with a member of type `Box<T>`; `Box` calls its parameter `T` too. -/
def captured : Snapshot where
  cursors := #[
    { kind := .translationUnit, spelling := "tu.cpp", entity := ⟨"tu"⟩ },
    { kind := .classTemplate, spelling := "Box", entity := ⟨"Box"⟩,
      semanticParent := some (.afterCount 0), children := [.afterCount 2] },
    { kind := .templateTypeParameter, spelling := "T", entity := ⟨"Box::T"⟩,
      semanticParent := some (.afterCount 1) },
    { kind := .classTemplate, spelling := "Outer", entity := ⟨"Outer"⟩,
      semanticParent := some (.afterCount 0), children := [.afterCount 4, .afterCount 5] },
    { kind := .templateTypeParameter, spelling := "T", entity := ⟨"Outer::T"⟩,
      semanticParent := some (.afterCount 3) },
    { kind := .fieldDecl, spelling := "box", entity := ⟨"Outer::box"⟩,
      semanticParent := some (.afterCount 3) }]
  types := #[
    { kind := .unexposed, spelling := "T" },
    { kind := .elaborated, spelling := "Box<T>", declaration := some (.afterCount 1),
      arguments := some [some (.afterCount 0)] }]

def parameterT (id : String) : Ty := .ofNode (.templateParameter ⟨⟨id⟩, "T"⟩)

def capturedBox : Ty :=
  .ofNode (.instantiation ⟨⟨"Box"⟩, "Box"⟩ (.exposed [.type (parameterT "Box::T")]))

theorem instantiationAt_captured (depth : Nat) :
    (captured.frontend.instantiationAt (captured.frontend.builder (depth + 1))
      ⟨.afterCount 5, .afterCount 1⟩).outcome = .ok (some capturedBox) := rfl

theorem readsParameter_captured :
    captured.frontend.ReadsParameter ⟨.afterCount 5, .afterCount 0⟩ (parameterT "Outer::T") := by
  refine .text rfl rfl ?_ ?_ rfl
  · intro otherwise
    rcases otherwise with ⟨facts, result, known, valid⟩ | ⟨element, found⟩ | ⟨t, found⟩
    · cases known
      cases valid
    · cases found
    · cases found
  · intro spelled
    obtain ⟨template, cv, spelling, name, tail, body, leaf, split, _⟩ := spelled
    cases leaf
    cases split

/-- An argument that is a parameter where the instantiation is written stays that parameter
just when it is the same one looked at from the template, whose own parameters capture it. -/
theorem argument_eq_parameter_iff {i : Nat} {t : Ty} {declaration : DeclRef}
    {list : List Argument} {argument : Argument}
    (built : (fe.instantiationAt (fe.builder depth) site).outcome = .ok (some t))
    (node : t.unqualified.node = .instantiation declaration (.exposed list))
    (place : list[i]? = some argument) (known : fe.type? site.type = some facts)
    (handle : facts.argument i = some h) (reads : fe.ReadsParameter ⟨site.cursor, h⟩ p) :
    ∃ template, fe.Instantiates site template ∧
      (argument = .type p ↔
        ¬ fe.SpellsInstantiation ⟨template, h⟩ ∧ fe.ReadsParameter ⟨template, h⟩ p) ∧
      ∀ q, fe.Captures template h q → argument = .type q := by
  rcases instantiationAt_ok built with ⟨none, _⟩ | ⟨template, _, arguments, cv, spelled, each, same⟩
  · cases none
  obtain rfl := Option.some.inj same
  rw [Ty.unqualified_qualify (by simp [Node.nodeClass])] at node
  obtain ⟨rfl, rfl⟩ := Node.instantiation.inj node
  obtain ⟨texts, each⟩ := each
  obtain ⟨text, each⟩ := argumentsFrom_getElem? each place
  rw [Nat.zero_add] at each
  refine ⟨template, spelled, ?_, fun q captures => ?_⟩
  · rw [← argumentAt_parameter known handle each]
    exact ⟨fun same => ⟨same, readsParameter_class reads⟩, fun parameter => parameter.1⟩
  · exact ((argumentAt_parameter known handle each).mpr (readsParameter_of_captures captures)).1

theorem argument_eq_parameter_iff_captured :
    (captured.frontend.instantiationAt (captured.frontend.builder 1)
      ⟨.afterCount 5, .afterCount 1⟩).outcome = .ok (some capturedBox) ∧
    captured.frontend.ReadsParameter ⟨.afterCount 5, .afterCount 0⟩ (parameterT "Outer::T") ∧
    ∃ template, captured.frontend.Instantiates ⟨.afterCount 5, .afterCount 1⟩ template ∧
      (Argument.type (parameterT "Box::T") = .type (parameterT "Outer::T") ↔
        ¬ captured.frontend.SpellsInstantiation ⟨template, .afterCount 0⟩ ∧
          captured.frontend.ReadsParameter ⟨template, .afterCount 0⟩ (parameterT "Outer::T")) := by
  obtain ⟨template, spelled, kept, _⟩ := argument_eq_parameter_iff (i := 0)
    (instantiationAt_captured 0) rfl rfl rfl rfl readsParameter_captured
  exact ⟨instantiationAt_captured 0, readsParameter_captured, template, spelled, kept⟩

/-- Every argument that is a parameter where the instantiation is written stays that one. -/
def KeepsArgumentScope (fe : Frontend) : Prop :=
  ∀ site t declaration list i argument facts h p,
    (fe.typeBuilder.instantiation site).outcome = .ok (some t) →
    t.unqualified.node = .instantiation declaration (.exposed list) →
    list[i]? = some argument → fe.type? site.type = some facts → facts.argument i = some h →
    fe.ReadsParameter ⟨site.cursor, h⟩ p → argument = .type p

theorem not_keepsArgumentScope_captured : ¬ captured.frontend.KeepsArgumentScope := by
  intro keeps
  have same : Argument.type (parameterT "Box::T") = .type (parameterT "Outer::T") :=
    keeps ⟨.afterCount 5, .afterCount 1⟩ capturedBox _ _ 0 _ _ _ _ (instantiationAt_captured _)
      rfl rfl rfl rfl readsParameter_captured
  simp [parameterT, Ty.ofNode] at same

end CxxTrees.Frontend
