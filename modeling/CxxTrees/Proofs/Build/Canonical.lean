import CxxTrees.Proofs.Build.Node
import CxxTrees.Snapshot.Basic

/-!
# Canonical forms

The canonical form of a type is its own node where the type is canonical, an
instantiation where one was looked for and found, and else the node of the
canonical type. Which of these it is depends on the declared node, and the
three need not agree.
-/

namespace CxxTrees.Frontend
variable {fe : Frontend} {site : Site} {t declared canonical : Ty} {k : TypeHandle}

def HasCanonical (fe : Frontend) (type k : TypeHandle) : Prop :=
  ∃ facts, fe.type? type = some facts ∧ facts.canonical = k

theorem hasCanonical_unique {type k k' : TypeHandle} (h : fe.HasCanonical type k)
    (h' : fe.HasCanonical type k') : k = k' := by
  obtain ⟨facts, known, rfl⟩ := h
  obtain ⟨facts', known', rfl⟩ := h'
  rw [Option.mem_unique known known']

/-- The canonical type is looked at as an instantiation first: the declared node is one, or a
class or typedef, with no qualifiers around it, and the type is not canonical itself. -/
def LooksForInstantiation (fe : Frontend) (type : TypeHandle) (declared : Ty) : Prop :=
  ¬ fe.HasCanonical type type ∧
    (declared.nodeClass = .instantiation ∨ declared.nodeClass = .userDefined)

/-- Looked at as an instantiation first, the type at a site is built as `t`. -/
def Recovers (fe : Frontend) (site : Site) (t : Ty) : Prop :=
  (fe.typeBuilder.instantiation site).outcome = .ok (some t) ∨
    ¬ fe.SpellsInstantiation site ∧ (fe.typeBuilder.node site).outcome = .ok (some t)

inductive ReadsCanonical (fe : Frontend) (c : Cursor) (type k : TypeHandle) (declared : Ty) :
    Ty → Prop where
  | own (same : k = type) : ReadsCanonical fe c type k declared declared
  | recovered {t : Ty} (looks : fe.LooksForInstantiation type declared)
      (recovers : fe.Recovers ⟨c, k⟩ t) : ReadsCanonical fe c type k declared t
  | node {t : Ty} (other : k ≠ type) (plain : ¬ fe.LooksForInstantiation type declared)
      (built : (fe.typeBuilder.node ⟨c, k⟩).outcome = .ok (some t)) :
      ReadsCanonical fe c type k declared t

theorem recovers_of_outcome (h : (do
      match ← fe.typeBuilder.instantiation site with
      | some t => return t
      | none => fe.required fe.typeBuilder site : Build Ty).outcome = .ok canonical) :
    fe.Recovers site canonical := by
  obtain ⟨answer, built, h⟩ := Build.bind_ok h
  cases answer with
  | some t =>
    obtain rfl := Build.pure_ok h
    exact .inl built
  | none =>
    obtain ⟨_, _, unspelled⟩ := builder_instantiation_ok built
    exact .inr ⟨instantiationAt_none unspelled, required_ok h⟩

theorem canonicalAt_ok (known : fe.HasCanonical site.type k)
    (h : (fe.canonicalAt site declared).outcome = .ok canonical) :
    fe.ReadsCanonical site.cursor site.type k declared canonical := by
  unfold canonicalAt canonicalWith at h
  obtain ⟨facts, looked, h⟩ := Build.bind_ok h
  obtain rfl := hasCanonical_unique known ⟨facts, type_ok looked, rfl⟩
  dsimp only at h
  split at h
  · rename_i same
    rw [← Build.pure_ok h]
    exact .own same
  · rename_i other
    have notSelf : ¬ fe.HasCanonical site.type site.type :=
      fun self => other (hasCanonical_unique known self)
    split at h
    · rename_i kind
      exact .recovered ⟨notSelf, .inl kind⟩ (recovers_of_outcome h)
    · rename_i kind
      exact .recovered ⟨notSelf, .inr kind⟩ (recovers_of_outcome h)
    · rename_i notInstantiation notUserDefined
      refine .node other (fun looks => ?_) (required_ok h)
      exact (looks.2.elim notInstantiation notUserDefined).elim

theorem typeAt_ok (h : (fe.typeAt site).outcome = .ok t) :
    ∃ declared k canonical, (fe.typeBuilder.node site).outcome = .ok (some declared) ∧
      fe.HasCanonical site.type k ∧
      fe.ReadsCanonical site.cursor site.type k declared canonical ∧
      (declared.nodeClass = .instantiation → canonical.nodeClass = .instantiation) ∧
      t = .mk declared.node (some canonical) := by
  unfold typeAt typeWith at h
  obtain ⟨declared, built, h⟩ := Build.bind_ok h
  have built := required_ok built
  have bare := (builder_node_reads built).1
  rw [bare] at h
  obtain ⟨canonical, built', h⟩ := Build.bind_ok h
  have ⟨facts, known⟩ : ∃ facts, fe.type? site.type = some facts := by
    obtain ⟨_, _, built⟩ := builder_node_ok built
    exact nodeAt_known built
  refine ⟨declared, facts.canonical, canonical, built, ⟨facts, known, rfl⟩,
    canonicalAt_ok ⟨facts, known, rfl⟩ built', ?_⟩
  split at h
  · obtain ⟨spelling, _, h⟩ := Build.bind_ok h
    exact absurd h Build.fail_ok
  · rename_i kept
    rw [Ty.withCanonical_ok bare] at h
    refine ⟨fun same => ?_, (Build.pure_ok h).symm⟩
    exact Decidable.byContradiction fun lost => kept ⟨same, lost⟩

/-! ### Which canonical form it is -/

variable {c : Cursor} {a b : TypeHandle} {u v : Ty}

theorem recovers_of_looks (known : fe.HasCanonical a k)
    (looks : fe.LooksForInstantiation a declared) (read : fe.ReadsCanonical c a k declared u) :
    fe.Recovers ⟨c, k⟩ u := by
  cases read with
  | own same => exact absurd (same ▸ known) looks.1
  | recovered _ recovers => exact recovers
  | node _ plain _ => exact absurd looks plain

theorem node_of_not_looks (built : (fe.typeBuilder.node ⟨c, a⟩).outcome = .ok (some declared))
    (plain : ¬ fe.LooksForInstantiation a declared) (read : fe.ReadsCanonical c a k declared u) :
    (fe.typeBuilder.node ⟨c, k⟩).outcome = .ok (some u) := by
  cases read with
  | own same => rwa [same]
  | recovered looks _ => exact absurd looks plain
  | node _ _ built => exact built

theorem spells_of_built (built : (fe.typeBuilder.instantiation site).outcome = .ok (some u)) :
    fe.SpellsInstantiation site ∧ u.unqualified.nodeClass = .instantiation := by
  obtain ⟨_, _, built⟩ := builder_instantiation_ok built
  obtain ⟨spelled, _, nodeClass⟩ := instantiationAt_some built
  exact ⟨spelled, nodeClass⟩

theorem built_unique {x : Build (Option Ty)} (h : x.outcome = .ok (some u))
    (h' : x.outcome = .ok (some v)) : u = v :=
  Option.some.inj (Except.ok.inj (h.symm.trans h'))

theorem recovers_unique (h : fe.Recovers site u) (h' : fe.Recovers site v) : u = v := by
  rcases h with built | ⟨unspelled, built⟩ <;> rcases h' with built' | ⟨unspelled', built'⟩
  · exact built_unique built built'
  · exact absurd (spells_of_built built).1 unspelled'
  · exact absurd (spells_of_built built').1 unspelled
  · exact built_unique built built'

theorem instantiation_eq_node_iff (self : fe.HasCanonical k k)
    (built : (fe.typeBuilder.instantiation ⟨c, k⟩).outcome = .ok (some u))
    (node : (fe.typeBuilder.node ⟨c, k⟩).outcome = .ok (some v)) :
    u = v ↔ fe.ReadsInstantiation ⟨c, k⟩ := by
  constructor
  · rintro rfl
    exact (builder_node_reads node).2.mp (spells_of_built built).2
  · intro reads
    have own : ∀ other, ¬ fe.DeducedAs k other := by
      intro other deduced
      obtain ⟨facts, _, known, _, same, different, _⟩ := deduced
      exact different (hasCanonical_unique ⟨facts, known, same⟩ self)
    obtain ⟨inner, depth, built⟩ := builder_instantiation_ok built
    obtain ⟨inner', depth', node⟩ := builder_node_ok node
    obtain rfl : inner = inner' := by omega
    exact built_unique built (nodeAt_of_reads own reads node)

/-- Looking for an instantiation makes a difference only where the canonical type is spelled
as one, but not read as one. -/
theorem recovers_eq_node_iff (self : fe.HasCanonical k k) (recovers : fe.Recovers ⟨c, k⟩ u)
    (node : (fe.typeBuilder.node ⟨c, k⟩).outcome = .ok (some v)) :
    u = v ↔ (fe.SpellsInstantiation ⟨c, k⟩ → fe.ReadsInstantiation ⟨c, k⟩) := by
  rcases recovers with built | ⟨unspelled, built⟩
  · rw [instantiation_eq_node_iff self built node]
    exact ⟨fun reads _ => reads, fun reads => reads (spells_of_built built).1⟩
  · exact ⟨fun _ spelled => absurd spelled unspelled, fun _ => built_unique built node⟩

/-! ### Two spellings of one type -/

/-- A variable that is declared as `const Box<int>` at once and through the typedef `CBox`;
both have the record of that specialization as canonical type. -/
def boxes : Snapshot where
  cursors := #[
    { kind := .translationUnit, spelling := "tu.cpp", entity := ⟨"tu"⟩ },
    { kind := .classTemplate, spelling := "Box", entity := ⟨"Box"⟩ },
    { kind := .classDecl, spelling := "Box", entity := ⟨"Box<int>"⟩, type := some (.afterCount 1),
      specializedTemplate := some (.afterCount 1) },
    { kind := .typedefDecl, spelling := "CBox", entity := ⟨"CBox"⟩ },
    { kind := .varDecl, spelling := "b", entity := ⟨"b"⟩ }]
  types := #[
    { kind := .int, spelling := "int" },
    { kind := .record, spelling := "const Box<int>", declaration := some (.afterCount 2),
      arguments := some [some (.afterCount 0)] },
    { kind := .elaborated, spelling := "const Box<int>", declaration := some (.afterCount 2),
      arguments := some [some (.afterCount 0)], canonical := some (.afterCount 1) },
    { kind := .typedef, spelling := "CBox", declaration := some (.afterCount 3),
      canonical := some (.afterCount 1) }]

def constBox : Ty :=
  .ofNode (.qualified
    (.ofNode (.instantiation ⟨⟨"Box"⟩, "Box"⟩ (.exposed [.type (.ofBuiltin .int)])))
    { isConst := true })

def constBoxRecord : Ty :=
  .ofNode (.qualified (.ofNode (.userDefined ⟨⟨"Box<int>"⟩, "Box<int>"⟩)) { isConst := true })

def declaredBox : Ty := .mk constBox.node (some constBoxRecord)

def typedefBox : Ty := .mk (.userDefined ⟨⟨"CBox"⟩, "CBox"⟩) (some constBox)

theorem typeAt_declaredBox :
    (boxes.frontend.typeAt ⟨.afterCount 4, .afterCount 2⟩).outcome = .ok declaredBox := rfl

theorem typeAt_typedefBox :
    (boxes.frontend.typeAt ⟨.afterCount 4, .afterCount 3⟩).outcome = .ok typedefBox := rfl

/-- Two types with one canonical type have the same canonical form, unless only one of them
leads to looking for an instantiation, and the node of the canonical type is none although it
is spelled as one. -/
theorem canonical_eq_iff {ta tb : Ty} (canonicalA : fe.HasCanonical a k)
    (canonicalB : fe.HasCanonical b k) (self : fe.HasCanonical k k)
    (builtA : (fe.typeAt ⟨c, a⟩).outcome = .ok ta) (builtB : (fe.typeAt ⟨c, b⟩).outcome = .ok tb) :
    ∃ u v, ta.canonical = some u ∧ tb.canonical = some v ∧
      (u = v ↔
        (fe.LooksForInstantiation a ta ↔ fe.LooksForInstantiation b tb) ∨
          (fe.SpellsInstantiation ⟨c, k⟩ → fe.ReadsInstantiation ⟨c, k⟩)) := by
  obtain ⟨da, _, u, nodeA, known, readA, _, rfl⟩ := typeAt_ok builtA
  obtain rfl := hasCanonical_unique canonicalA known
  obtain ⟨db, _, v, nodeB, known, readB, _, rfl⟩ := typeAt_ok builtB
  obtain rfl := hasCanonical_unique canonicalB known
  refine ⟨u, v, rfl, rfl, ?_⟩
  show u = v ↔ (fe.LooksForInstantiation a da ↔ fe.LooksForInstantiation b db) ∨ _
  by_cases looksA : fe.LooksForInstantiation a da <;>
    by_cases looksB : fe.LooksForInstantiation b db
  · have formA := recovers_of_looks canonicalA looksA readA
    have formB := recovers_of_looks canonicalB looksB readB
    simp [looksA, looksB, recovers_unique formA formB]
  · have formA := recovers_of_looks canonicalA looksA readA
    have formB := node_of_not_looks nodeB looksB readB
    simp [looksA, looksB, recovers_eq_node_iff self formA formB]
  · have formA := node_of_not_looks nodeA looksA readA
    have formB := recovers_of_looks canonicalB looksB readB
    rw [eq_comm]
    simp [looksA, looksB, recovers_eq_node_iff self formB formA]
  · have formA := node_of_not_looks nodeA looksA readA
    have formB := node_of_not_looks nodeB looksB readB
    simp [looksA, looksB, built_unique formA formB]

theorem canonical_eq_iff_boxes :
    boxes.frontend.HasCanonical (.afterCount 2) (.afterCount 1) ∧
    boxes.frontend.HasCanonical (.afterCount 3) (.afterCount 1) ∧
    boxes.frontend.HasCanonical (.afterCount 1) (.afterCount 1) ∧
    (boxes.frontend.typeAt ⟨.afterCount 4, .afterCount 2⟩).outcome = .ok declaredBox ∧
    (boxes.frontend.typeAt ⟨.afterCount 4, .afterCount 3⟩).outcome = .ok typedefBox ∧
    ∃ u v, declaredBox.canonical = some u ∧ typedefBox.canonical = some v ∧
      (u = v ↔
        (boxes.frontend.LooksForInstantiation (.afterCount 2) declaredBox ↔
          boxes.frontend.LooksForInstantiation (.afterCount 3) typedefBox) ∨
        (boxes.frontend.SpellsInstantiation ⟨.afterCount 4, .afterCount 1⟩ →
          boxes.frontend.ReadsInstantiation ⟨.afterCount 4, .afterCount 1⟩)) := by
  have declared : boxes.frontend.HasCanonical (.afterCount 2) (.afterCount 1) := ⟨_, rfl, rfl⟩
  have named : boxes.frontend.HasCanonical (.afterCount 3) (.afterCount 1) := ⟨_, rfl, rfl⟩
  have self : boxes.frontend.HasCanonical (.afterCount 1) (.afterCount 1) := ⟨_, rfl, rfl⟩
  exact ⟨declared, named, self, typeAt_declaredBox, typeAt_typedefBox,
    canonical_eq_iff declared named self typeAt_declaredBox typeAt_typedefBox⟩

/-- All types with one canonical type have the same canonical form at a cursor. -/
def CanonicalDetermined (fe : Frontend) : Prop :=
  ∀ c a b k ta tb, fe.HasCanonical a k → fe.HasCanonical b k → fe.HasCanonical k k →
    (fe.typeAt ⟨c, a⟩).outcome = .ok ta → (fe.typeAt ⟨c, b⟩).outcome = .ok tb →
      ta.canonical = tb.canonical

theorem not_canonicalDetermined_boxes : ¬ boxes.frontend.CanonicalDetermined := by
  intro determined
  have same : some constBoxRecord = some constBox :=
    determined (.afterCount 4) (.afterCount 2) (.afterCount 3) (.afterCount 1) _ _
      ⟨_, rfl, rfl⟩ ⟨_, rfl, rfl⟩ ⟨_, rfl, rfl⟩ typeAt_declaredBox typeAt_typedefBox
  have nodeClass := congrArg (fun t => t.map fun t : Ty => t.unqualified.nodeClass) same
  exact absurd nodeClass (by decide)

/-! ### Instantiations -/

/-- The canonical form of an instantiation is one too where the type is canonical, where no
qualifiers are around the declared node, or where the canonical type is read as one. -/
theorem canonical_instantiation_iff (built : (fe.typeAt site).outcome = .ok t)
    (declared : t.unqualified.nodeClass = .instantiation) :
    ∃ u, t.canonical = some u ∧
      (u.unqualified.nodeClass = .instantiation ↔
        fe.HasCanonical site.type site.type ∨ t.nodeClass = .instantiation ∨
          ∃ k, fe.HasCanonical site.type k ∧ fe.ReadsInstantiation ⟨site.cursor, k⟩) := by
  obtain ⟨d, k, u, node, known, read, kept, rfl⟩ := typeAt_ok built
  rw [Ty.nodeClass_unqualified_mk] at declared
  refine ⟨u, rfl, ?_⟩
  show _ ↔ _ ∨ d.nodeClass = .instantiation ∨ _
  have bare (same : d.nodeClass = .instantiation) : u.unqualified.nodeClass = .instantiation := by
    have kept := kept same
    rw [Ty.unqualified_of_nodeClass (by simp [kept])]
    exact kept
  cases read with
  | own same => exact ⟨fun _ => .inl (same ▸ known), fun _ => declared⟩
  | recovered looks _ =>
    have same : d.nodeClass = .instantiation := by
      rcases looks.2 with same | other
      · exact same
      · rw [Ty.unqualified_of_nodeClass (by simp [other]), other] at declared
        cases declared
    exact ⟨fun _ => .inr (.inl same), fun _ => bare same⟩
  | node other plain built =>
    have notSelf : ¬ fe.HasCanonical site.type site.type :=
      fun self => other (hasCanonical_unique known self)
    rw [(builder_node_reads built).2]
    constructor
    · exact fun reads => .inr (.inr ⟨k, known, reads⟩)
    · intro ways
      rcases ways with self | same | ⟨k', known', reads⟩
      · exact absurd self notSelf
      · exact absurd ⟨notSelf, .inl same⟩ plain
      · rwa [hasCanonical_unique known known']

theorem canonical_instantiation_iff_boxes :
    (boxes.frontend.typeAt ⟨.afterCount 4, .afterCount 2⟩).outcome = .ok declaredBox ∧
    declaredBox.unqualified.nodeClass = .instantiation ∧
    ∃ u, declaredBox.canonical = some u ∧
      (u.unqualified.nodeClass = .instantiation ↔
        boxes.frontend.HasCanonical (.afterCount 2) (.afterCount 2) ∨
          declaredBox.nodeClass = .instantiation ∨
          ∃ k, boxes.frontend.HasCanonical (.afterCount 2) k ∧
            boxes.frontend.ReadsInstantiation ⟨.afterCount 4, k⟩) :=
  ⟨typeAt_declaredBox, rfl, canonical_instantiation_iff typeAt_declaredBox rfl⟩

/-- The canonical form of an instantiation is one, whatever qualifiers are around either. -/
def KeepsInstantiations (fe : Frontend) : Prop :=
  ∀ site t, (fe.typeAt site).outcome = .ok t → t.unqualified.nodeClass = .instantiation →
    ∃ u, t.canonical = some u ∧ u.unqualified.nodeClass = .instantiation

theorem not_keepsInstantiations_boxes : ¬ boxes.frontend.KeepsInstantiations := by
  intro keeps
  obtain ⟨u, form, nodeClass⟩ := keeps ⟨.afterCount 4, .afterCount 2⟩ _ typeAt_declaredBox rfl
  obtain rfl : constBoxRecord = u := Option.some.inj form
  cases nodeClass

end CxxTrees.Frontend
