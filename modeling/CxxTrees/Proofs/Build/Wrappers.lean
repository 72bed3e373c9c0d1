import CxxTrees.Proofs.Build.Inherited
import CxxTrees.Snapshot.Basic

/-!
# Wrappers of qualifiers

What is built has qualifiers around it once at most, and some. But the class of a member pointer
is built first, perhaps as a qualified type, and gets the qualifiers that the member pointer is
spelled with around that. So there is a wrapper in a wrapper exactly below such member pointers
(`wrappedOnce_iff`).
-/

namespace CxxTrees
open Relation

namespace Ty
variable {t inner : Ty} {node : Node} {cv : Cv}

/-- If there are qualifiers around a type, there are some. -/
def IsFilled (t : Ty) : Prop := ∀ inner cv, t.node = .qualified inner cv → cv ≠ .none

/-- Qualifiers are around a type that has qualifiers around it. -/
def IsTwiceWrapped (t : Ty) : Prop := t.unqualified.nodeClass = .qualified

/-- No wrapper in a type is empty. -/
def Filled (t : Ty) : Prop := ∀ u, ReflTransGen Part t u → u.IsFilled

theorem filled_of_parts (filled : t.IsFilled) (parts : ∀ u ∈ t.node.parts, u.Filled) :
    t.Filled := by
  intro u path
  rcases ReflTransGen.cases_head path with rfl | ⟨part, link, rest⟩
  · exact filled
  · exact parts part link u rest

theorem filled_ofNode (bare : node.nodeClass ≠ .qualified) (parts : ∀ u ∈ node.parts, u.Filled) :
    (ofNode node).Filled :=
  filled_of_parts (fun _ _ same => absurd (congrArg Node.nodeClass same) bare) parts

theorem filled_qualify (filled : inner.Filled) : (inner.qualify cv).Filled := by
  unfold qualify
  split
  · exact filled
  · rename_i some_
    refine filled_of_parts ?_ (List.forall_mem_singleton.mpr filled)
    rintro _ _ ⟨⟩
    exact fun none => some_ ((Cv.isEmpty_iff cv).mpr none)

end Ty

namespace Frontend
variable {fe : Frontend} {site : Site} {t : Ty}

theorem inherited_filled : fe.Inherited Ty.Filled where
  node bare parts := Ty.filled_qualify (Ty.filled_ofNode bare parts)
  member member class_ rest := member.gives Ty.filled_ofNode (Ty.filled_qualify class_) rest

/-- What a member pointer points to that is spelled with qualifiers, and whose class type is
qualified already. -/
def QualifiesTwice (fe : Frontend) (t : Ty) : Prop :=
  ∃ depth site spelling ofClass, (fe.memberAt (fe.builder depth) site).outcome = .ok t ∧
    fe.spellingAt site = .ok spelling ∧ fe.BuildsClass (fe.builder depth) site ofClass ∧
    ofClass.nodeClass = .qualified ∧ Spelling.classCv spelling ≠ .none

theorem buildsClass_unique {sub : Builder} {ofClass ofClass' : Ty}
    (h : fe.BuildsClass sub site ofClass) (h' : fe.BuildsClass sub site ofClass') :
    ofClass = ofClass' := by
  obtain ⟨facts, k, known, valid, built⟩ := h
  obtain ⟨facts', k', known', valid', built'⟩ := h'
  obtain rfl := Option.mem_unique known known'
  cases valid.symm.trans valid'
  exact Except.ok.inj (built.symm.trans built')

/-- A type is not wrapped twice, and where one inside of it is, a member pointer is the cause. -/
structure WrapsOnce (fe : Frontend) (t : Ty) : Prop where
  root : ¬ t.IsTwiceWrapped
  below : ∀ u, ReflTransGen Ty.Part t u → u.IsTwiceWrapped →
    ∃ p, TransGen Ty.Part t p ∧ fe.QualifiesTwice p

theorem wrapsOnce_of_parts (root : ¬ t.IsTwiceWrapped)
    (parts : ∀ u ∈ t.node.parts, fe.WrapsOnce u) : fe.WrapsOnce t := by
  refine ⟨root, fun u path twice => ?_⟩
  rcases ReflTransGen.cases_head path with rfl | ⟨part, link, rest⟩
  · exact absurd twice root
  · obtain ⟨p, path, cause⟩ := (parts part link).below u rest twice
    exact ⟨p, .head link path, cause⟩

theorem wrapsOnce_ofNode {node : Node} (bare : node.nodeClass ≠ .qualified)
    (parts : ∀ u ∈ node.parts, fe.WrapsOnce u) : fe.WrapsOnce (.ofNode node) := by
  refine wrapsOnce_of_parts ?_ parts
  have unqualified : (Ty.ofNode node).unqualified = .ofNode node :=
    Ty.unqualified_of_nodeClass bare
  rw [Ty.IsTwiceWrapped, unqualified]
  exact bare

theorem wrapsOnce_qualify {inner : Ty} {cv : Cv} (once : fe.WrapsOnce inner)
    (apart : inner.nodeClass ≠ .qualified ∨ cv = .none) : fe.WrapsOnce (inner.qualify cv) := by
  unfold Ty.qualify
  split
  · exact once
  · rename_i some_
    have bare := apart.resolve_right fun none => some_ ((Cv.isEmpty_iff cv).mpr none)
    exact wrapsOnce_of_parts bare (List.forall_mem_singleton.mpr once)

theorem inherited_wrapsOnce : fe.Inherited fe.WrapsOnce where
  node bare parts := wrapsOnce_qualify (wrapsOnce_ofNode bare parts) (.inl bare)
  member := by
    intro depth site spelling ofClass others t member class_ rest
    by_cases apart : ofClass.nodeClass ≠ .qualified ∨ Spelling.classCv spelling = .none
    · exact member.gives wrapsOnce_ofNode (wrapsOnce_qualify class_ apart) rest
    -- A second wrapper is put around that of the class, whatever else is inside.
    · obtain ⟨qualified, some_⟩ := not_or.mp apart
      refine ⟨nofun, fun u _ _ => ⟨t, .single (List.mem_singleton.mpr rfl), ?_⟩⟩
      exact ⟨depth, site, spelling, ofClass, member.built, member.spelled, member.class_,
        Decidable.not_not.mp qualified, some_⟩

/-- The class that is qualified twice is wrapped in a wrapper. -/
theorem exists_isTwiceWrapped (twice : fe.QualifiesTwice t) :
    ∃ u, t.Contains u ∧ u.IsTwiceWrapped := by
  obtain ⟨depth, site, spelling, ofClass, built, spelled, class_, qualified, some_⟩ := twice
  have anything : (fe.builder depth).Gives fun _ => True := ⟨fun _ => trivial, fun _ => trivial⟩
  obtain ⟨spelling', ofClass', others, member, _⟩ := memberAt_ok anything built
  obtain rfl := Except.ok.inj (spelled.symm.trans member.spelled)
  obtain rfl := buildsClass_unique class_ member.class_
  let wrapped := ofClass.qualify (Spelling.classCv spelling)
  have around : wrapped = .ofNode (.qualified ofClass (Spelling.classCv spelling)) :=
    if_neg fun empty => some_ ((Cv.isEmpty_iff _).mp empty)
  have part : t.Part (ofClass.asClass spelling) := by
    rw [Ty.Part, member.parts]
    exact List.mem_cons_self
  refine ⟨wrapped, Ty.contains_of_path (.head part ?_), ?_⟩
  · unfold Ty.asClass
    split
    · exact .single (List.mem_singleton.mpr rfl)
    · exact .refl
  · rw [around]
    exact qualified

/-- No wrapper is empty, and a wrapper is in a wrapper exactly below a member pointer that
qualifies its class a second time. -/
theorem wrappedOnce_iff (built : (fe.typeAt site).outcome = .ok t) :
    (∀ u, t.Contains u → u.IsFilled) ∧
    ((∀ u, t.Contains u → ¬ u.IsTwiceWrapped) ↔
      ∀ p, t.Contains p → ¬ fe.QualifiesTwice p) := by
  obtain ⟨declared, form, ⟨bare, filled, once⟩, ⟨bareForm, filledForm, onceForm⟩, rfl⟩ :=
    typeAt_gives (inherited_bare.and (inherited_filled.and inherited_wrapsOnce)) built
  have inside (u : Ty) := Ty.contains_mk_iff (u := u) bare bareForm
  constructor
  · intro u contains
    rcases (inside u).mp contains with rfl | path | path
    · exact filled declared .refl
    · exact filled u path.to_reflTransGen
    · exact filledForm u path
  constructor
  · intro single p contains twice
    obtain ⟨u, below, wrapped⟩ := exists_isTwiceWrapped twice
    exact single u (contains.trans below) wrapped
  · intro kept u contains wrapped
    rcases (inside u).mp contains with rfl | path | path
    · exact once.root (Ty.nodeClass_unqualified_mk.symm.trans wrapped)
    · obtain ⟨p, path, twice⟩ := once.below u path.to_reflTransGen wrapped
      exact kept p ((inside p).mpr (.inr (.inl path))) twice
    · obtain ⟨p, path, twice⟩ := onceForm.below u path wrapped
      exact kept p ((inside p).mpr (.inr (.inr path.to_reflTransGen))) twice

/-- A class that is constant as it is spelled, and pointers to member functions of it: a volatile
one and one without qualifiers. -/
def methods : Snapshot where
  cursors := #[
    { kind := .classDecl, spelling := "A", entity := ⟨"A"⟩ },
    { kind := .varDecl, spelling := "run", entity := ⟨"run"⟩ }]
  types := #[
    { kind := .int, spelling := "int" },
    { kind := .record, spelling := "const A", declaration := some (.afterCount 0) },
    { kind := .functionProto, spelling := "int ()", result := some (.afterCount 0),
      parameters := some [] },
    { kind := .memberPointer, spelling := "int (A::*)() volatile",
      pointee := some (.afterCount 2), ofClass := some (.afterCount 1) },
    { kind := .memberPointer, spelling := "int (A::*)()", pointee := some (.afterCount 2),
      ofClass := some (.afterCount 1) }]

def constClass : Ty :=
  .ofNode (.qualified (.ofNode (.userDefined ⟨⟨"A"⟩, "A"⟩)) { isConst := true })

/-- What a pointer to a function of that class points to, with the qualifiers behind it. -/
def method (cv : Cv) : Ty :=
  .ofNode (.memberFunction (constClass.wrapped cv) (.ofBuiltin .int) [] false)

def methodPointer (cv : Cv) : Ty :=
  .mk (.pointer (method cv)) (some (.ofNode (.pointer (method cv))))

theorem typeAt_methods :
    (methods.frontend.typeAt ⟨.afterCount 1, .afterCount 3⟩).outcome =
      .ok (methodPointer { isVolatile := true }) ∧
    (methods.frontend.typeAt ⟨.afterCount 1, .afterCount 4⟩).outcome =
      .ok (methodPointer .none) := ⟨rfl, rfl⟩

theorem wrapped_method (cv : Cv) : (methodPointer cv).Contains (constClass.wrapped cv) := by
  have pointee : (methodPointer cv).Holds (method cv) := .inl (List.mem_singleton.mpr rfl)
  have class_ : (method cv).Holds (constClass.wrapped cv) := .inl List.mem_cons_self
  exact .head pointee (.single class_)

theorem wrappedOnce_iff_methods :
    (∀ u, (methodPointer { isVolatile := true }).Contains u → u.IsFilled) ∧
    (∃ p, (methodPointer { isVolatile := true }).Contains p ∧ methods.frontend.QualifiesTwice p) ∧
    (∀ u, (methodPointer .none).Contains u → u.IsFilled) := by
  obtain ⟨filled, once⟩ := wrappedOnce_iff typeAt_methods.1
  obtain ⟨filled', _⟩ := wrappedOnce_iff typeAt_methods.2
  refine ⟨filled, Classical.byContradiction fun none => ?_, filled'⟩
  have single := once.mpr fun p contains twice => none ⟨p, contains, twice⟩
  exact single _ (wrapped_method _) rfl

/-- Qualifiers are in one place around every type of a tree, and there are some. -/
def KeepsQualifiersTogether (fe : Frontend) : Prop :=
  ∀ site t, (fe.typeAt site).outcome = .ok t →
    ∀ u, t.Contains u → u.IsFilled ∧ ¬ u.IsTwiceWrapped

theorem not_keepsQualifiersTogether_methods : ¬ methods.frontend.KeepsQualifiersTogether := by
  intro keeps
  exact (keeps _ _ typeAt_methods.1 _ (wrapped_method _)).2 rfl

end Frontend

end CxxTrees
