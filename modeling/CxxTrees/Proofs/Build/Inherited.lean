import CxxTrees.Proofs.Build.Canonical
import CxxTrees.Proofs.Tree.Bare

/-!
# Inherited properties

A builder puts a node around types that it has built before, and qualifiers around that. So a
property of types that is inherited from the types inside, at such a node and at the pointers
to members, holds of everything that is built (`builder_gives`).
-/

namespace CxxTrees

/-- What a builder answers has a property. -/
structure Builder.Gives (sub : Builder) (P : Ty → Prop) : Prop where
  node : ∀ {site t}, (sub.node site).outcome = .ok (some t) → P t
  instantiation : ∀ {site t}, (sub.instantiation site).outcome = .ok (some t) → P t

/-- The qualifiers that a member pointer is spelled with, which are given to its class. -/
def Spelling.classCv (spelling : List Char) : Cv :=
  (trailingCv (trailingRef spelling).2).1

/-- A class with what the member pointer to it is spelled with: qualifiers, and perhaps a
reference to it. -/
def Ty.asClass (ofClass : Ty) (spelling : List Char) : Ty :=
  match (Spelling.trailingRef spelling).1 with
  | some kind => .ofNode (.reference (ofClass.qualify (Spelling.classCv spelling)) kind)
  | none => ofClass.qualify (Spelling.classCv spelling)

namespace Frontend

/-- The class of the member pointer at a site is built as `ofClass`. -/
def BuildsClass (fe : Frontend) (sub : Builder) (site : Site) (ofClass : Ty) : Prop :=
  ∃ facts k, fe.type? site.type = some facts ∧ fe.valid facts.ofClass = .ok (some k) ∧
    (fe.required sub ⟨site.cursor, k⟩).outcome = .ok ofClass

/-- What the member pointer at a site points to, in its parts. -/
structure BuildsMember (fe : Frontend) (sub : Builder) (site : Site) (spelling : List Char)
    (ofClass : Ty) (others : List Ty) (t : Ty) : Prop where
  built : (fe.memberAt sub site).outcome = .ok t
  spelled : fe.spellingAt site = .ok spelling
  class_ : fe.BuildsClass sub site ofClass
  plain : t = .ofNode t.node
  unqualified : t.nodeClass ≠ .qualified
  parts : t.node.parts = ofClass.asClass spelling :: others

/-- A property that types have if the types inside of them do. -/
structure Inherited (fe : Frontend) (P : Ty → Prop) : Prop where
  node : ∀ {node cv}, node.nodeClass ≠ .qualified → (∀ u ∈ node.parts, P u) →
    P ((Ty.ofNode node).qualify cv)
  member : ∀ {depth site spelling ofClass others t},
    fe.BuildsMember (fe.builder depth) site spelling ofClass others t →
    P ofClass → (∀ u ∈ others, P u) → P (.ofNode (.pointer t))

/-- What is inherited from the types inside holds of a member pointer, if it does of the class
with the qualifiers around it. -/
theorem BuildsMember.gives {fe : Frontend} {sub : Builder} {site : Site} {spelling : List Char}
    {ofClass t : Ty} {others : List Ty} {P : Ty → Prop}
    (member : fe.BuildsMember sub site spelling ofClass others t)
    (around : ∀ {node}, node.nodeClass ≠ .qualified → (∀ u ∈ node.parts, P u) → P (.ofNode node))
    (class_ : P (ofClass.qualify (Spelling.classCv spelling))) (rest : ∀ u ∈ others, P u) :
    P (.ofNode (.pointer t)) := by
  have referred : P (ofClass.asClass spelling) := by
    unfold Ty.asClass
    split
    · exact around nofun (List.forall_mem_singleton.mpr class_)
    · exact class_
  have pointee : P t := by
    rw [member.plain]
    apply around member.unqualified
    rw [member.parts]
    exact List.forall_mem_cons.mpr ⟨referred, rest⟩
  exact around nofun (List.forall_mem_singleton.mpr pointee)

namespace Inherited
variable {fe : Frontend} {P : Ty → Prop} {node : Node} {cv : Cv}
  (inherited : fe.Inherited P)
include inherited

theorem bare (kind : node.nodeClass ≠ .qualified) (parts : ∀ u ∈ node.parts, P u) :
    P (.ofNode node) :=
  show P ((Ty.ofNode node).qualify Cv.none) from inherited.node kind parts

theorem and {Q : Ty → Prop} (other : fe.Inherited Q) : fe.Inherited fun t => P t ∧ Q t where
  node kind parts := ⟨inherited.node kind fun u member => (parts u member).1,
    other.node kind fun u member => (parts u member).2⟩
  member built class_ rest := ⟨inherited.member built class_.1 fun u member => (rest u member).1,
    other.member built class_.2 fun u member => (rest u member).2⟩

theorem leaf (kind : node.nodeClass ≠ .qualified) (empty : node.parts = []) :
    P ((Ty.ofNode node).qualify cv) := inherited.node kind (by simp [empty])

theorem unexposed (spelling : String) : P (.unexposed spelling) :=
  inherited.bare (by nofun) (by simp [Node.parts])

theorem ofBuiltin (kind : Builtin) : P (.ofBuiltin kind) :=
  inherited.bare (by nofun) (by simp [Node.parts])

end Inherited

section
variable {fe : Frontend} {P : Ty → Prop} {sub : Builder} {site : Site} {t : Ty}
  {facts : TypeFacts} (inherited : fe.Inherited P)

/-! ### Without types inside -/

section
include inherited

theorem argumentOfText_gives (text : List Char) : P (argumentOfText text).inner := by
  simp only [argumentOfText, Argument.inner]
  split <;> exact inherited.unexposed _

theorem sizeAt_gives {size : Option Expr} (h : fe.sizeAt site = .ok size) :
    ∀ u ∈ (size.map Expr.type).toList, P u := by
  have size_ : ∀ body, ∀ u ∈ ((some (Expr.mk (.ofBuiltin .ulongLong) body)).map Expr.type).toList,
      P u := by
    rintro body u member
    obtain rfl := List.mem_singleton.mp member
    exact inherited.ofBuiltin _
  obtain ⟨facts, _, h⟩ := except_bind_ok h
  split at h
  · obtain rfl := except_pure_ok h
    exact size_ _
  · obtain ⟨spelling, _, h⟩ := except_bind_ok h
    split at h
    · cases h
    · obtain rfl := except_pure_ok h
      exact nofun
    · obtain rfl := except_pure_ok h
      exact size_ _

theorem userDefinedAt_gives (h : fe.userDefinedAt site = .ok t) : P t := by
  obtain ⟨⟨cv, name⟩, _, h⟩ := except_bind_ok h
  obtain ⟨facts, _, h⟩ := except_bind_ok h
  split at h
  · obtain ⟨spelling, _, h⟩ := except_bind_ok h
    rw [← except_pure_ok h]
    exact inherited.unexposed _
  · obtain ⟨declared, _, h⟩ := except_bind_ok h
    rw [← except_pure_ok h]
    exact inherited.leaf nofun rfl

theorem decltypeAt_gives (h : fe.decltypeAt site = .ok (some t)) : P t := by
  obtain ⟨facts, _, h⟩ := except_bind_ok h
  split at h
  · cases except_pure_ok h
  · obtain ⟨⟨cv, name⟩, _, h⟩ := except_bind_ok h
    simp only at h
    split at h
    · cases h
    · cases except_pure_ok h
    · obtain rfl := Option.some.inj (except_pure_ok h)
      refine inherited.node nofun (List.forall_mem_singleton.mpr ?_)
      exact inherited.unexposed "<decltype>"

theorem parameterAt_gives (h : fe.parameterAt site = .ok (some t)) : P t := by
  obtain ⟨parameter, cv, rfl⟩ := parameterWithin_node h
  exact inherited.leaf nofun rfl

end

/-! ### With types inside -/

section
variable (gives : sub.Gives P)
include gives

theorem required_gives (h : (fe.required sub site).outcome = .ok t) : P t :=
  gives.node (required_ok h)

theorem pointeeAt_gives (h : (fe.pointeeAt sub site).outcome = .ok t) : P t := by
  obtain ⟨facts, _, h⟩ := Build.bind_ok h
  obtain ⟨pointee, _, h⟩ := Build.bind_ok h
  cases pointee with
  | some pointee => exact required_gives gives h
  | none => exact absurd h Build.fail_ok

theorem parametersFrom_gives {index count : Nat} {parameters : List Ty}
    (h : (fe.parametersFrom sub site facts index count).outcome = .ok parameters) :
    ∀ u ∈ parameters, P u := by
  induction count generalizing index parameters with
  | zero =>
    obtain rfl := Build.pure_ok h
    exact nofun
  | succ count ih =>
    unfold parametersFrom at h
    split at h
    · exact absurd h Build.fail_ok
    · obtain ⟨first, built, h⟩ := Build.bind_ok h
      obtain ⟨more, rest, h⟩ := Build.bind_ok h
      obtain rfl := Build.pure_ok h
      exact List.forall_mem_cons.mpr ⟨required_gives gives built, ih rest⟩

theorem parametersAt_gives {parameters : List Ty} {isVariadic : Bool}
    (h : (fe.parametersAt sub site).outcome = .ok (parameters, isVariadic)) :
    ∀ u ∈ parameters, P u := by
  obtain ⟨facts, _, h⟩ := Build.bind_ok h
  split at h
  · exact absurd h Build.fail_ok
  · obtain ⟨list, built, h⟩ := Build.bind_ok h
    obtain ⟨rfl, _⟩ := Prod.mk.inj (Build.pure_ok h)
    exact parametersFrom_gives gives built

/-- The class of a member pointer is built on its own, and so are the types of the member. -/
theorem memberAt_ok (h : (fe.memberAt sub site).outcome = .ok t) :
    ∃ spelling ofClass others, fe.BuildsMember sub site spelling ofClass others t ∧
      P ofClass ∧ ∀ u ∈ others, P u := by
  have built := h
  obtain ⟨spelling, spelled, h⟩ := Build.bind_ok h
  obtain ⟨facts, looked, h⟩ := Build.bind_ok h
  obtain ⟨k, valid, h⟩ := Build.bind_ok h
  cases k with
  | none => exact absurd h Build.fail_ok
  | some k =>
    obtain ⟨ofClass, class_, h⟩ := Build.bind_ok h
    obtain ⟨pointee, _, h⟩ := Build.bind_ok h
    have class' : fe.BuildsClass sub site ofClass := ⟨facts, k, type_ok looked, valid, class_⟩
    cases pointee with
    | none => exact absurd h Build.fail_ok
    | some pointee =>
      obtain ⟨facts', _, h⟩ := Build.bind_ok h
      obtain ⟨result, _, h⟩ := Build.bind_ok h
      cases result with
      | none =>
        obtain ⟨value, built', h⟩ := Build.bind_ok h
        refine ⟨spelling, ofClass, [value], ⟨built, spelled, class', ?_, ?_, ?_⟩,
          required_gives gives class_, List.forall_mem_singleton.mpr (required_gives gives built')⟩
        all_goals rw [← Build.pure_ok h]
        · rfl
        · nofun
        · rfl
      | some result =>
        obtain ⟨returned, built', h⟩ := Build.bind_ok h
        obtain ⟨⟨parameters, isVariadic⟩, listed, h⟩ := Build.bind_ok h
        refine ⟨spelling, ofClass, returned :: parameters, ⟨built, spelled, class', ?_, ?_, ?_⟩,
          required_gives gives class_, List.forall_mem_cons.mpr ⟨required_gives gives built',
            parametersAt_gives gives listed⟩⟩
        all_goals rw [← Build.pure_ok h]
        · rfl
        · nofun
        · rfl

include inherited

theorem argumentAt_gives {template : Cursor} {type : TypeHandle} {index : Nat} {text : List Char}
    {argument : Argument}
    (h : (fe.argumentAt sub template type index text).outcome = .ok argument) :
    P argument.inner := by
  have known (t : Ty) (has : P t) :
      P (if t.isBlankUnexposed then argumentOfText text else .type t).inner := by
    split
    · exact argumentOfText_gives inherited text
    · exact has
  obtain ⟨facts, _, h⟩ := Build.bind_ok h
  split at h
  · obtain ⟨built, none, h⟩ := Build.bind_ok h
    obtain rfl := Build.pure_ok none
    obtain rfl := Build.pure_ok h
    exact argumentOfText_gives inherited text
  · obtain ⟨read, instantiated, h⟩ := Build.bind_ok h
    cases read with
    | some t =>
      obtain rfl := Build.pure_ok h
      exact known t (gives.instantiation instantiated)
    | none =>
      obtain ⟨built, node, h⟩ := Build.bind_ok h
      obtain rfl := Build.pure_ok h
      cases built with
      | some t => exact known t (gives.node node)
      | none => exact argumentOfText_gives inherited text

theorem argumentsFrom_gives {template : Cursor} {type : TypeHandle} {index : Nat}
    {texts : List (List Char)} {arguments : List Argument}
    (h : (fe.argumentsFrom sub template type index texts).outcome = .ok arguments) :
    ∀ u ∈ arguments.map Argument.inner, P u := by
  induction texts generalizing index arguments with
  | nil =>
    obtain rfl := Build.pure_ok h
    exact nofun
  | cons text texts ih =>
    obtain ⟨argument, first, h⟩ := Build.bind_ok h
    obtain ⟨more, rest, h⟩ := Build.bind_ok h
    obtain rfl := Build.pure_ok h
    exact List.forall_mem_cons.mpr ⟨argumentAt_gives inherited gives first, ih rest⟩

theorem instantiationAt_gives (h : (fe.instantiationAt sub site).outcome = .ok (some t)) : P t := by
  rcases instantiationAt_ok h with ⟨none, _⟩ | ⟨template, _, arguments, _, _, built, same⟩
  · cases none
  · obtain rfl := Option.some.inj same
    refine inherited.node nofun ?_
    cases arguments with
    | exposed list =>
      obtain ⟨texts, built⟩ := built
      exact argumentsFrom_gives inherited gives built
    | raw text => exact nofun

theorem functionAt_gives (h : (fe.functionAt sub site).outcome = .ok (some t)) : P t := by
  obtain ⟨facts, _, h⟩ := Build.bind_ok h
  obtain ⟨result, _, h⟩ := Build.bind_ok h
  cases result with
  | none => cases Build.pure_ok h
  | some result =>
    obtain ⟨returned, built, h⟩ := Build.bind_ok h
    obtain ⟨⟨parameters, isVariadic⟩, listed, h⟩ := Build.bind_ok h
    obtain rfl := Option.some.inj (Build.pure_ok h)
    exact inherited.bare nofun <|
      List.forall_mem_cons.mpr ⟨required_gives gives built, parametersAt_gives gives listed⟩

theorem arrayAt_gives (h : (fe.arrayAt sub site).outcome = .ok (some t)) : P t := by
  obtain ⟨element, _, h⟩ := Build.bind_ok h
  cases element with
  | none => cases Build.pure_ok h
  | some element =>
    obtain ⟨facts, _, h⟩ := Build.bind_ok h
    obtain ⟨size, sized, h⟩ := Build.bind_ok h
    obtain ⟨inner, built, h⟩ := Build.bind_ok h
    obtain rfl := Option.some.inj (Build.pure_ok h)
    exact inherited.bare nofun <|
      List.forall_mem_cons.mpr ⟨required_gives gives built, sizeAt_gives inherited sized⟩

theorem unexposedAt_gives (h : (fe.unexposedAt sub site).outcome = .ok t) : P t := by
  obtain ⟨answer, read, h⟩ := Build.bind_ok h
  cases answer with
  | some t' =>
    obtain rfl := Build.pure_ok h
    obtain ⟨reading, member, taken⟩ := firstReading_some read
    simp only [readings, List.mem_cons, List.not_mem_nil, or_false] at member
    rcases member with rfl | rfl | rfl | rfl | rfl
    · exact functionAt_gives inherited gives taken
    · exact arrayAt_gives inherited gives taken
    · exact decltypeAt_gives inherited taken
    · exact instantiationAt_gives inherited gives taken
    · exact parameterAt_gives inherited taken
  | none =>
    obtain ⟨spelling, _, h⟩ := Build.bind_ok h
    rw [← Build.pure_ok h]
    exact inherited.unexposed _

end

variable {depth : Nat} (gives : (fe.builder depth).Gives P)
include inherited gives

theorem nodeAt_gives (h : (fe.nodeAt (fe.builder depth) site).outcome = .ok (some t)) : P t := by
  obtain ⟨facts, _, h⟩ := Build.bind_ok h
  have declared (h : (do return some (← fe.userDefinedAt site) : Build (Option Ty)).outcome =
      .ok (some t)) : P t := by
    obtain ⟨t', built, h⟩ := Build.bind_ok h
    obtain rfl := Option.some.inj (Build.pure_ok h)
    exact userDefinedAt_gives inherited built
  have textual (h : (do return some (← fe.unexposedAt (fe.builder depth) site) :
      Build (Option Ty)).outcome = .ok (some t)) : P t := by
    obtain ⟨t', built, h⟩ := Build.bind_ok h
    obtain rfl := Option.some.inj (Build.pure_ok h)
    exact unexposedAt_gives inherited gives built
  split at h
  · obtain ⟨leaf, _, h⟩ := Build.bind_ok h
    obtain rfl := Option.some.inj (Build.pure_ok h)
    exact inherited.leaf nofun rfl
  · split at h
    case h_1 => cases Build.pure_ok h
    case h_2 | h_3 => exact textual h
    case h_4 =>
      obtain ⟨read, built, h⟩ := Build.bind_ok h
      cases read with
      | some t' =>
        obtain rfl := Option.some.inj (Build.pure_ok h)
        exact instantiationAt_gives inherited gives built
      | none => exact declared h
    case h_5 | h_6 | h_7 => exact declared h
    case h_8 =>
      obtain ⟨pointee, built, h⟩ := Build.bind_ok h
      obtain ⟨spelling, _, h⟩ := Build.bind_ok h
      obtain rfl := Option.some.inj (Build.pure_ok h)
      exact inherited.node nofun (List.forall_mem_singleton.mpr (pointeeAt_gives gives built))
    case h_9 | h_10 =>
      obtain ⟨referee, built, h⟩ := Build.bind_ok h
      obtain rfl := Option.some.inj (Build.pure_ok h)
      exact inherited.bare nofun (List.forall_mem_singleton.mpr (pointeeAt_gives gives built))
    case h_11 | h_12 | h_13 | h_14 => exact arrayAt_gives inherited gives h
    case h_15 | h_16 =>
      obtain ⟨read, built, h⟩ := Build.bind_ok h
      cases read with
      | some t' =>
        obtain rfl := Option.some.inj (Build.pure_ok h)
        exact functionAt_gives inherited gives built
      | none => exact absurd h Build.fail_ok
    case h_17 =>
      obtain ⟨member, built, h⟩ := Build.bind_ok h
      obtain rfl := Option.some.inj (Build.pure_ok h)
      obtain ⟨spelling, ofClass, others, member, class_, rest⟩ := memberAt_ok gives built
      exact inherited.member member class_ rest
    -- A deduced type is built as the one that it stands for.
    case h_18 =>
      obtain ⟨facts', _, h⟩ := Build.bind_ok h
      split at h
      · obtain ⟨leaf, _, h⟩ := Build.bind_ok h
        obtain rfl := Option.some.inj (Build.pure_ok h)
        exact inherited.leaf nofun rfl
      · exact gives.node h
    case h_19 | h_20 | h_21 | h_22 | h_23 =>
      obtain ⟨_, _, h⟩ := Build.bind_ok h
      exact textual h
    case h_24 =>
      obtain ⟨spelling, _, h⟩ := Build.bind_ok h
      obtain rfl := Option.some.inj (Build.pure_ok h)
      exact inherited.unexposed _

end

/-! ### Everything that is built -/

section
variable {fe : Frontend} {P : Ty → Prop} {site : Site} {t : Ty}

theorem builder_gives (inherited : fe.Inherited P) (depth : Nat) : (fe.builder depth).Gives P := by
  induction depth with
  | zero => exact ⟨nofun, nofun⟩
  | succ depth ih => exact ⟨nodeAt_gives inherited ih, instantiationAt_gives inherited ih⟩

/-- A type has the node of one that is built, and its canonical form is built. -/
theorem typeAt_gives (inherited : fe.Inherited P) (h : (fe.typeAt site).outcome = .ok t) :
    ∃ declared form : Ty, P declared ∧ P form ∧ t = .mk declared.node (some form) := by
  obtain ⟨declared, k, form, built, _, read, _, rfl⟩ := typeAt_ok h
  have gives : fe.typeBuilder.Gives P := builder_gives inherited _
  refine ⟨declared, form, gives.node built, ?_, rfl⟩
  cases read with
  | own => exact gives.node built
  | recovered _ recovers =>
    rcases recovers with built | ⟨_, built⟩
    · exact gives.instantiation built
    · exact gives.node built
  | node _ _ built => exact gives.node built

end

/-! ### Canonical forms inside of trees -/

variable {fe : Frontend} {site : Site} {t : Ty}

theorem inherited_bare : fe.Inherited Ty.Bare where
  node _ parts := Ty.bare_qualify (Ty.bare_ofNode parts)
  member member class_ rest :=
    member.gives (fun _ => Ty.bare_ofNode) (Ty.bare_qualify class_) rest

/-- The only canonical form in a tree is that at its root, which has none inside of it. -/
theorem typeAt_bare (h : (fe.typeAt site).outcome = .ok t) :
    ∃ declared form : Ty, declared.Bare ∧ form.Bare ∧ t = .mk declared.node (some form) :=
  typeAt_gives inherited_bare h

end Frontend

end CxxTrees
