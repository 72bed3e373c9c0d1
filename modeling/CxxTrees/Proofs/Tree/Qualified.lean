import CxxTrees.Tree.Basic

/-!
# Qualified types

What is left of a type when the qualifiers around it are taken off again.
-/

namespace CxxTrees

/-- A node that has no qualifiers around it, and that is neither an instantiation nor a
template parameter. -/
def Node.isPlain (node : Node) : Bool :=
  node.nodeClass ≠ .qualified && node.nodeClass ≠ .instantiation &&
    node.nodeClass ≠ .templateParameter

namespace Ty
variable {node : Node} {cv : Cv} {t : Ty}

/-- A type in a node of its own for its qualifiers, or as it is if it has none. -/
def wrapped (inner : Ty) (cv : Cv) : Ty :=
  if cv.isConst || cv.isVolatile then ofNode (.qualified inner cv) else inner

theorem qualify_eq (inner : Ty) (cv : Cv) : inner.qualify cv = inner.wrapped cv := by
  unfold qualify wrapped Cv.isEmpty
  cases cv.isConst <;> cases cv.isVolatile <;> rfl

theorem canonical_qualify : ((ofNode node).qualify cv).canonical = none := by
  unfold qualify
  split <;> rfl

theorem unqualified_qualify (bare : node.nodeClass ≠ .qualified) :
    ((ofNode node).qualify cv).unqualified = ofNode node := by
  unfold qualify
  split
  · cases node <;> first | rfl | exact absurd rfl bare
  · rfl

theorem unqualified_of_nodeClass (bare : t.nodeClass ≠ .qualified) : t.unqualified = t := by
  rcases t with ⟨node, form⟩
  cases node <;> first | rfl | exact absurd rfl bare

theorem nodeClass_unqualified_mk {form : Option Ty} :
    (mk t.node form).unqualified.nodeClass = t.unqualified.nodeClass := by
  rcases t with ⟨node, _⟩
  cases node <;> rfl

theorem nodeClass_qualify (node : Node) (cv : Cv) :
    ((ofNode node).qualify cv).nodeClass = node.nodeClass ∨
      ((ofNode node).qualify cv).nodeClass = .qualified := by
  unfold qualify
  split
  · exact .inl rfl
  · exact .inr rfl

theorem nodeClass_qualify_iff (bare : node.nodeClass ≠ .qualified) :
    ((ofNode node).qualify cv).nodeClass = node.nodeClass ↔ cv = Cv.none := by
  rw [← Cv.isEmpty_iff]
  unfold qualify
  split
  · rename_i empty
    exact iff_of_true rfl empty
  · rename_i some_
    exact iff_of_false (Ne.symm bare) some_

theorem qualify_inj {node' : Node} {cv' : Cv} (bare : node.nodeClass ≠ .qualified)
    (bare' : node'.nodeClass ≠ .qualified)
    (same : ((ofNode node).qualify cv).node = ((ofNode node').qualify cv').node) : cv = cv' := by
  unfold qualify at same
  split at same <;> split at same
  · rename_i empty empty'
    rw [(Cv.isEmpty_iff cv).mp empty, (Cv.isEmpty_iff cv').mp empty']
  · exact absurd (congrArg Node.nodeClass same) bare
  · exact absurd (congrArg Node.nodeClass same).symm bare'
  · exact (Node.qualified.inj same).2

theorem withCanonical_ok {form : Ty} (bare : t.canonical = none) :
    t.withCanonical form = .ok (mk t.node (some form)) := by
  rcases t with ⟨node, _ | _⟩
  · rfl
  · cases bare

/-! ### Plain types -/

/-- A plain node, perhaps with qualifiers around it. -/
def IsPlain (t : Ty) : Prop := ∃ node cv, node.isPlain = true ∧ t = (ofNode node).qualify cv

theorem isPlain_ofNode (plain : node.isPlain = true) : (ofNode node).IsPlain :=
  ⟨node, Cv.none, plain, rfl⟩

theorem isPlain_qualify (plain : node.isPlain = true) : ((ofNode node).qualify cv).IsPlain :=
  ⟨node, cv, plain, rfl⟩

theorem canonical_of_isPlain (plain : t.IsPlain) : t.canonical = none := by
  obtain ⟨node, cv, _, rfl⟩ := plain
  exact canonical_qualify

theorem nodeClass_of_isPlain (plain : t.IsPlain) :
    t.unqualified.nodeClass ≠ .instantiation ∧ t.unqualified.nodeClass ≠ .templateParameter := by
  obtain ⟨node, cv, bare, rfl⟩ := plain
  simp only [Node.isPlain, Bool.and_eq_true, decide_eq_true_eq] at bare
  rw [unqualified_qualify bare.1.1]
  exact ⟨bare.1.2, bare.2⟩

theorem nodeClass_of_isBlankUnexposed (blank : t.isBlankUnexposed = true) :
    t.unqualified.nodeClass = .unexposed := by
  rcases t with ⟨node, form⟩
  cases node <;> first | rfl | cases blank

end Ty

end CxxTrees
