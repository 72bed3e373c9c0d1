import CxxTrees.Proofs.Build.Reading

/-!
# Nodes of types

What a node says of the kind and the spelling it was built from. A type reads
as an instantiation only where its kind leaves it to its spelling, and no other
reading comes first.
-/

namespace CxxTrees

/-- Kinds of types that the frontend does not expose, so that the readings are tried. -/
def TypeKind.isTextual (kind : TypeKind) : Bool :=
  kind = .unexposed || kind = .dependent || kind.isUnmodelled

/-- Kinds under which a type is neither read by its text nor by another type. -/
def TypeKind.isExposed (kind : TypeKind) : Bool :=
  kind ≠ .elaborated && !kind.isTextual && kind ≠ .auto

theorem TypeKind.isExposed_of_builtin {kind : TypeKind} {builtin : Builtin}
    (h : kind.builtin? = some builtin) : kind.isExposed = true := by
  cases kind <;> first | rfl | cases h

namespace Frontend
variable {fe : Frontend} {sub : Builder} {site : Site} {t : Ty} {facts : TypeFacts}

/-- A type to be deduced that was deduced, namely as `other`. -/
def DeducedAs (fe : Frontend) (type other : TypeHandle) : Prop :=
  ∃ facts otherFacts, fe.type? type = some facts ∧ facts.kind = .auto ∧ facts.canonical = other ∧
    other ≠ type ∧ fe.type? other = some otherFacts ∧ otherFacts.kind ≠ .auto

inductive ReadsNode (fe : Frontend) (sub : Builder) (site : Site) (facts : TypeFacts) :
    Ty → Prop where
  | exposed {t : Ty} (kind : facts.kind.isExposed = true) (plain : t.IsPlain) :
      ReadsNode fe sub site facts t
  | instantiation {t : Ty} (kind : facts.kind = .elaborated)
      (spelled : fe.SpellsInstantiation site)
      (built : (fe.instantiationAt sub site).outcome = .ok (some t)) :
      ReadsNode fe sub site facts t
  | userDefined {t : Ty} (kind : facts.kind = .elaborated)
      (unspelled : ¬ fe.SpellsInstantiation site) (plain : t.IsPlain) :
      ReadsNode fe sub site facts t
  | text {t : Ty} (kind : facts.kind.isTextual = true) (read : fe.ReadsText sub site t) :
      ReadsNode fe sub site facts t
  | auto {t : Ty} (kind : facts.kind = .auto) (unknown : ∀ other, ¬ fe.DeducedAs site.type other)
      (plain : t.IsPlain) : ReadsNode fe sub site facts t
  | deduced {t : Ty} {other : TypeHandle} (known : fe.DeducedAs site.type other)
      (built : (sub.node { site with type := other }).outcome = .ok (some t)) :
      ReadsNode fe sub site facts t

theorem textNode_ok {answer : Option Ty}
    (h : (do return some (← fe.unexposedAt sub site) : Build (Option Ty)).outcome = .ok answer) :
    ∃ t, answer = some t ∧ fe.ReadsText sub site t := by
  obtain ⟨t, read, h⟩ := Build.bind_ok h
  exact ⟨t, (Build.pure_ok h).symm, unexposedAt_ok read⟩

theorem nodeAt_textual {answer : Option Ty} (known : fe.type? site.type = some facts)
    (kind : facts.kind.isTextual = true) (h : (fe.nodeAt sub site).outcome = .ok answer) :
    ∃ t, answer = some t ∧ fe.ReadsText sub site t := by
  unfold nodeAt at h
  obtain ⟨facts', looked, h⟩ := Build.bind_ok h
  obtain rfl := Option.mem_unique known (type_ok looked)
  simp only [TypeKind.isTextual, TypeKind.isUnmodelled, Bool.or_eq_true, decide_eq_true_eq,
    List.contains_eq_mem, List.mem_cons, List.not_mem_nil, or_false] at kind
  rcases kind with (kind | kind) | kind | kind | kind | kind | kind <;>
    simp only [kind, TypeKind.builtin?] at h
  case inl.inl | inl.inr => exact textNode_ok h
  all_goals
    obtain ⟨_, _, h⟩ := Build.bind_ok h
    exact textNode_ok h

theorem nodeAt_ok (known : fe.type? site.type = some facts)
    (h : (fe.nodeAt sub site).outcome = .ok (some t)) : fe.ReadsNode sub site facts t := by
  unfold nodeAt at h
  obtain ⟨facts', looked, h⟩ := Build.bind_ok h
  obtain rfl := Option.mem_unique known (type_ok looked)
  have text (kind : facts.kind.isTextual = true)
      (h : (do return some (← fe.unexposedAt sub site) : Build (Option Ty)).outcome =
        .ok (some t)) : fe.ReadsNode sub site facts t := by
    obtain ⟨t', same, read⟩ := textNode_ok h
    obtain rfl := Option.some.inj same
    exact .text kind read
  split at h
  · rename_i builtin kind
    obtain ⟨leaf, _, h⟩ := Build.bind_ok h
    obtain rfl := Option.some.inj (Build.pure_ok h)
    exact .exposed (TypeKind.isExposed_of_builtin kind) (Ty.isPlain_qualify rfl)
  · split at h <;> try rename_i kind
    case h_1 => cases Build.pure_ok h
    -- Kinds that leave the type to its text.
    case h_2 | h_3 => exact text (by rw [kind]; rfl) h
    -- An elaborated type is an instantiation if it is spelled as one.
    case h_4 =>
      obtain ⟨read, built, h⟩ := Build.bind_ok h
      rcases instantiationAt_ok built with ⟨rfl, unspelled⟩ | ⟨template, _, _, _, spelled, _, rfl⟩
      · obtain ⟨t', built, h⟩ := Build.bind_ok h
        obtain rfl := Option.some.inj (Build.pure_ok h)
        exact .userDefined kind unspelled (userDefinedAt_plain built)
      · obtain rfl := Option.some.inj (Build.pure_ok h)
        exact .instantiation kind ⟨template, spelled⟩ built
    -- Declared types, and types made of others.
    case h_5 | h_6 | h_7 =>
      obtain ⟨t', built, h⟩ := Build.bind_ok h
      obtain rfl := Option.some.inj (Build.pure_ok h)
      exact .exposed (by rw [kind]; rfl) (userDefinedAt_plain built)
    case h_8 =>
      obtain ⟨pointee, _, h⟩ := Build.bind_ok h
      obtain ⟨spelling, _, h⟩ := Build.bind_ok h
      obtain rfl := Option.some.inj (Build.pure_ok h)
      exact .exposed (by rw [kind]; rfl) (Ty.isPlain_qualify rfl)
    case h_9 | h_10 | h_17 =>
      obtain ⟨inner, _, h⟩ := Build.bind_ok h
      obtain rfl := Option.some.inj (Build.pure_ok h)
      exact .exposed (by rw [kind]; rfl) (Ty.isPlain_ofNode rfl)
    case h_11 | h_12 | h_13 | h_14 =>
      rcases arrayAt_ok h with ⟨_, t', same, plain⟩ | ⟨_, none⟩
      · obtain rfl := Option.some.inj same
        exact .exposed (by rw [kind]; rfl) plain
      · cases none
    case h_15 | h_16 =>
      obtain ⟨read, built, h⟩ := Build.bind_ok h
      rcases functionAt_ok built with ⟨_, t', rfl, plain⟩ | ⟨_, rfl⟩
      · obtain rfl := Option.some.inj (Build.pure_ok h)
        exact .exposed (by rw [kind]; rfl) plain
      · exact absurd h Build.fail_ok
    -- A type to be deduced stands for its canonical type, unless that is of this kind too.
    case h_18 =>
      obtain ⟨otherFacts, looked', h⟩ := Build.bind_ok h
      have known' := type_ok looked'
      split at h
      · rename_i stays
        obtain ⟨leaf, _, h⟩ := Build.bind_ok h
        obtain rfl := Option.some.inj (Build.pure_ok h)
        refine .auto kind ?_ (Ty.isPlain_qualify rfl)
        intro other deduced
        obtain ⟨facts', otherFacts', again, _, rfl, different, again', kind'⟩ := deduced
        obtain rfl := Option.mem_unique known again
        obtain rfl := Option.mem_unique known' again'
        exact stays.elim different kind'
      · rename_i leaves
        refine .deduced ⟨facts, otherFacts, known, kind, rfl, ?_, known', ?_⟩ h
        · exact fun same => leaves (.inl same)
        · exact fun kind => leaves (.inr kind)
    -- Kinds without a node of their own: a warning, and then the text.
    case h_19 | h_20 | h_21 | h_22 | h_23 =>
      obtain ⟨_, _, h⟩ := Build.bind_ok h
      exact text (by rw [kind]; rfl) h
    case h_24 =>
      obtain ⟨spelling, _, h⟩ := Build.bind_ok h
      obtain rfl := Option.some.inj (Build.pure_ok h)
      refine .exposed ?_ (Ty.isPlain_ofNode rfl)
      simp_all [TypeKind.isExposed, TypeKind.isTextual, TypeKind.isUnmodelled]

theorem nodeAt_deduced {other : TypeHandle} {answer : Option Ty}
    (known : fe.DeducedAs site.type other) (h : (fe.nodeAt sub site).outcome = .ok answer) :
    (sub.node { site with type := other }).outcome = .ok answer := by
  obtain ⟨facts, otherFacts, known, kind, rfl, different, known', kind'⟩ := known
  unfold nodeAt at h
  obtain ⟨facts', looked, h⟩ := Build.bind_ok h
  obtain rfl := Option.mem_unique known (type_ok looked)
  simp only [kind, TypeKind.builtin?] at h
  obtain ⟨otherFacts', looked', h⟩ := Build.bind_ok h
  obtain rfl := Option.mem_unique known' (type_ok looked')
  rwa [if_neg (not_or.mpr ⟨different, kind'⟩)] at h

/-! ### Nodes of any depth -/

/-- A type whose node is an instantiation, perhaps with qualifiers around it. -/
inductive ReadsInstantiation (fe : Frontend) : Site → Prop where
  | elaborated {site : Site} {facts : TypeFacts} (known : fe.type? site.type = some facts)
      (kind : facts.kind = .elaborated) (spelled : fe.SpellsInstantiation site) :
      ReadsInstantiation fe site
  | text {site : Site} {facts : TypeFacts} (known : fe.type? site.type = some facts)
      (kind : facts.kind.isTextual = true) (only : ¬ fe.ReadsOtherwise site)
      (spelled : fe.SpellsInstantiation site) : ReadsInstantiation fe site
  | deduced {site : Site} {other : TypeHandle} (known : fe.DeducedAs site.type other)
      (reads : ReadsInstantiation fe { site with type := other }) : ReadsInstantiation fe site

theorem deducedAs_unique {type other other' : TypeHandle} (h : fe.DeducedAs type other)
    (h' : fe.DeducedAs type other') : other = other' := by
  obtain ⟨facts, _, known, _, rfl, _⟩ := h
  obtain ⟨facts', _, known', _, rfl, _⟩ := h'
  rw [Option.mem_unique known known']

theorem deducedAs_kind {type other : TypeHandle} (h : fe.DeducedAs type other)
    (known : fe.type? type = some facts) : facts.kind = .auto := by
  obtain ⟨facts', _, known', kind, _⟩ := h
  rwa [Option.mem_unique known known']

theorem readsInstantiation_iff (known : fe.type? site.type = some facts) :
    fe.ReadsInstantiation site ↔
      facts.kind = .elaborated ∧ fe.SpellsInstantiation site ∨
      facts.kind.isTextual = true ∧ ¬ fe.ReadsOtherwise site ∧ fe.SpellsInstantiation site ∨
      ∃ other, fe.DeducedAs site.type other ∧
        fe.ReadsInstantiation { site with type := other } := by
  constructor
  · intro reads
    cases reads with
    | elaborated known' kind spelled =>
      obtain rfl := Option.mem_unique known known'
      exact .inl ⟨kind, spelled⟩
    | text known' kind only spelled =>
      obtain rfl := Option.mem_unique known known'
      exact .inr (.inl ⟨kind, only, spelled⟩)
    | deduced known' reads => exact .inr (.inr ⟨_, known', reads⟩)
  · intro ways
    rcases ways with ⟨kind, spelled⟩ | ⟨kind, only, spelled⟩ | ⟨other, known', reads⟩
    · exact .elaborated known kind spelled
    · exact .text known kind only spelled
    · exact .deduced known' reads

/-! Each kind leaves at most one of the three ways. -/

theorem readsInstantiation_exposed (known : fe.type? site.type = some facts)
    (kind : facts.kind.isExposed = true) : ¬ fe.ReadsInstantiation site := by
  rw [readsInstantiation_iff known]
  simp only [TypeKind.isExposed, Bool.and_eq_true, decide_eq_true_eq, Bool.not_eq_true'] at kind
  intro ways
  rcases ways with ⟨elaborated, _⟩ | ⟨text, _⟩ | ⟨other, known', _⟩
  · exact kind.1.1 elaborated
  · exact Bool.false_ne_true (kind.1.2.symm.trans text)
  · exact kind.2 (deducedAs_kind known' known)

theorem readsInstantiation_elaborated (known : fe.type? site.type = some facts)
    (kind : facts.kind = .elaborated) :
    fe.ReadsInstantiation site ↔ fe.SpellsInstantiation site := by
  rw [readsInstantiation_iff known, kind]
  constructor
  · intro ways
    rcases ways with ⟨_, spelled⟩ | ⟨text, _⟩ | ⟨other, known', _⟩
    · exact spelled
    · cases text
    · cases kind.symm.trans (deducedAs_kind known' known)
  · exact fun spelled => .inl ⟨rfl, spelled⟩

theorem readsInstantiation_text (known : fe.type? site.type = some facts)
    (kind : facts.kind.isTextual = true) :
    fe.ReadsInstantiation site ↔ ¬ fe.ReadsOtherwise site ∧ fe.SpellsInstantiation site := by
  rw [readsInstantiation_iff known]
  constructor
  · intro ways
    rcases ways with ⟨elaborated, _⟩ | ⟨_, read⟩ | ⟨other, known', _⟩
    · rw [elaborated] at kind
      cases kind
    · exact read
    · rw [deducedAs_kind known' known] at kind
      cases kind
  · exact fun read => .inr (.inl ⟨kind, read⟩)

theorem readsInstantiation_auto (known : fe.type? site.type = some facts)
    (kind : facts.kind = .auto) :
    fe.ReadsInstantiation site ↔ ∃ other, fe.DeducedAs site.type other ∧
      fe.ReadsInstantiation { site with type := other } := by
  rw [readsInstantiation_iff known, kind]
  constructor
  · intro ways
    rcases ways with ⟨elaborated, _⟩ | ⟨text, _⟩ | deduced
    · cases elaborated
    · cases text
    · exact deduced
  · exact fun deduced => .inr (.inr deduced)

variable {depth : Nat}

theorem builder_node_ok {answer : Option Ty}
    (h : ((fe.builder depth).node site).outcome = .ok answer) :
    ∃ inner, depth = inner + 1 ∧ (fe.nodeAt (fe.builder inner) site).outcome = .ok answer := by
  cases depth with
  | zero => cases h
  | succ inner => exact ⟨inner, rfl, h⟩

theorem builder_instantiation_ok {answer : Option Ty}
    (h : ((fe.builder depth).instantiation site).outcome = .ok answer) :
    ∃ inner, depth = inner + 1 ∧
      (fe.instantiationAt (fe.builder inner) site).outcome = .ok answer := by
  cases depth with
  | zero => cases h
  | succ inner => exact ⟨inner, rfl, h⟩

theorem nodeAt_known {answer : Option Ty} (h : (fe.nodeAt sub site).outcome = .ok answer) :
    ∃ facts, fe.type? site.type = some facts := by
  unfold nodeAt at h
  obtain ⟨facts, looked, _⟩ := Build.bind_ok h
  exact ⟨facts, type_ok looked⟩

theorem other_reads (bare : t.canonical = none) (other : t.unqualified.nodeClass ≠ .instantiation)
    (unread : ¬ fe.ReadsInstantiation site) :
    t.canonical = none ∧
      (t.unqualified.nodeClass = .instantiation ↔ fe.ReadsInstantiation site) :=
  ⟨bare, fun same => absurd same other, fun reads => absurd reads unread⟩

theorem plain_reads (plain : t.IsPlain) (unread : ¬ fe.ReadsInstantiation site) :
    t.canonical = none ∧
      (t.unqualified.nodeClass = .instantiation ↔ fe.ReadsInstantiation site) :=
  other_reads (Ty.canonical_of_isPlain plain) (Ty.nodeClass_of_isPlain plain).1 unread

theorem instantiation_reads (built : (fe.instantiationAt sub site).outcome = .ok (some t))
    (reads : fe.ReadsInstantiation site) :
    t.canonical = none ∧
      (t.unqualified.nodeClass = .instantiation ↔ fe.ReadsInstantiation site) := by
  obtain ⟨_, bare, nodeClass⟩ := instantiationAt_some built
  exact ⟨bare, fun _ => reads, fun _ => nodeClass⟩

/-- A node is built without a canonical form, and is an instantiation exactly where the
type is read as one. -/
theorem builder_node_reads (h : ((fe.builder depth).node site).outcome = .ok (some t)) :
    t.canonical = none ∧
      (t.unqualified.nodeClass = .instantiation ↔ fe.ReadsInstantiation site) := by
  induction depth generalizing site with
  | zero => cases h
  | succ depth ih =>
    obtain ⟨facts, known⟩ := nodeAt_known h
    cases nodeAt_ok known h with
    | exposed kind plain => exact plain_reads plain (readsInstantiation_exposed known kind)
    | instantiation kind spelled built =>
      exact instantiation_reads built (.elaborated known kind spelled)
    | userDefined kind unspelled plain =>
      refine plain_reads plain ?_
      rwa [readsInstantiation_elaborated known kind]
    | text kind read =>
      have reads := readsInstantiation_text known kind
      cases read with
      | other otherwise plain =>
        exact plain_reads plain fun read => (reads.mp read).1 otherwise
      | instantiation only spelled built =>
        exact instantiation_reads built (.text known kind only spelled)
      | parameter _ unspelled found =>
        obtain ⟨bare, parameter⟩ := parameterAt_some found
        exact other_reads bare (by simp [parameter]) fun read => unspelled (reads.mp read).2
      | text _ unspelled =>
        exact plain_reads (Ty.isPlain_ofNode rfl) fun read => unspelled (reads.mp read).2
    | auto kind unknown plain =>
      refine plain_reads plain ?_
      rw [readsInstantiation_auto known kind]
      intro deduced
      obtain ⟨other, known', _⟩ := deduced
      exact unknown other known'
    | deduced known' built =>
      obtain ⟨bare, nodeClass⟩ := ih built
      refine ⟨bare, nodeClass.trans ?_⟩
      rw [readsInstantiation_auto known (deducedAs_kind known' known)]
      constructor
      · exact fun reads => ⟨_, known', reads⟩
      · intro deduced
        obtain ⟨other, known'', reads⟩ := deduced
        rwa [deducedAs_unique known' known'']

/-- A type that is read as an instantiation has no other node. -/
theorem nodeAt_of_reads (own : ∀ other, ¬ fe.DeducedAs site.type other)
    (reads : fe.ReadsInstantiation site) (h : (fe.nodeAt sub site).outcome = .ok (some t)) :
    (fe.instantiationAt sub site).outcome = .ok (some t) := by
  obtain ⟨facts, type⟩ := nodeAt_known h
  cases nodeAt_ok type h with
  | exposed kind _ => exact absurd reads (readsInstantiation_exposed type kind)
  | instantiation _ _ built => exact built
  | userDefined kind unspelled _ =>
    exact absurd ((readsInstantiation_elaborated type kind).mp reads) unspelled
  | text kind read =>
    obtain ⟨only, spelled⟩ := (readsInstantiation_text type kind).mp reads
    cases read with
    | other otherwise _ => exact absurd otherwise only
    | instantiation _ _ built => exact built
    | parameter _ unspelled _ => exact absurd spelled unspelled
    | text _ unspelled => exact absurd spelled unspelled
  | auto kind unknown _ =>
    obtain ⟨other, known', _⟩ := (readsInstantiation_auto type kind).mp reads
    exact absurd known' (unknown other)
  | deduced known' _ => exact absurd known' (own _)

end Frontend

end CxxTrees
