import Mathlib.Logic.Relation
import CxxTrees.Tree.Basic

/-!
# Bare trees

The types that a tree is made of, those of the expressions in it included, and trees in
which none of them has a canonical form.
-/

namespace CxxTrees

/-- The type that an argument is, or that its expression has. -/
def Argument.inner : Argument → Ty
  | .type t => t
  | .expr e => e.type

def Arguments.parts : Arguments → List Ty
  | .exposed list => list.map Argument.inner
  | .raw _ => []

/-- The types directly inside of a node. -/
def Node.parts : Node → List Ty
  | .builtin _ | .templateParameter _ | .userDefined _ | .auto | .unexposed _ => []
  | .pointer t | .reference t _ | .qualified t _ => [t]
  | .array element size => element :: (size.map Expr.type).toList
  | .function result parameters _ => result :: parameters
  | .memberObject ofClass value => [ofClass, value]
  | .memberFunction ofClass result parameters _ => ofClass :: result :: parameters
  | .instantiation _ arguments => arguments.parts
  | .decltype operand => [operand.type]

namespace Ty
variable {t u inner : Ty} {node : Node} {cv : Cv}

def Part (t u : Ty) : Prop := u ∈ t.node.parts

/-- Neither a type nor any inside of it has a canonical form. -/
def Bare (t : Ty) : Prop := ∀ u, Relation.ReflTransGen Part t u → u.canonical = none

theorem bare_ofNode (parts : ∀ u ∈ node.parts, u.Bare) : (ofNode node).Bare := by
  intro u path
  rcases Relation.ReflTransGen.cases_head path with rfl | ⟨part, link, rest⟩
  · rfl
  · exact parts part link u rest

theorem bare_qualify (bare : inner.Bare) : (inner.qualify cv).Bare := by
  unfold qualify
  split
  · exact bare
  · exact bare_ofNode (by simpa [Node.parts] using bare)

/-! ### Whole trees -/

/-- A type directly inside of another, or the canonical form of it. -/
def Holds (t u : Ty) : Prop := t.Part u ∨ t.canonical = some u

/-- A type anywhere in the tree of another, canonical forms included. -/
def Contains : Ty → Ty → Prop := Relation.ReflTransGen Holds

theorem path_of_contains (bare : t.Bare) (contains : t.Contains u) :
    Relation.ReflTransGen Part t u := by
  induction contains with
  | refl => exact .refl
  | tail _ link path =>
    rcases link with part | form
    · exact path.tail part
    · rw [bare _ path] at form
      cases form

theorem contains_of_path (path : Relation.ReflTransGen Part t u) : t.Contains u :=
  path.lift id fun _ _ => .inl

/-- A tree with a canonical form at its root only is that root, what is inside of it, and the
tree of the form. -/
theorem contains_mk_iff {declared form : Ty} (bare : declared.Bare) (bareForm : form.Bare) :
    (mk declared.node (some form)).Contains u ↔ u = mk declared.node (some form) ∨
      Relation.TransGen Part declared u ∨ Relation.ReflTransGen Part form u := by
  constructor
  · intro contains
    rcases Relation.ReflTransGen.cases_head contains with rfl | ⟨v, link, rest⟩
    · exact .inl rfl
    · rcases link with part | same
      · have bareInside : v.Bare := fun w path => bare w (path.head part)
        exact .inr (.inl (.head' part (path_of_contains bareInside rest)))
      · cases same
        exact .inr (.inr (path_of_contains bareForm rest))
  · rintro (rfl | path | path)
    · exact .refl
    · obtain ⟨v, part, rest⟩ := Relation.TransGen.head'_iff.mp path
      exact .head (.inl part) (contains_of_path rest)
    · exact .head (.inr rfl) (contains_of_path path)

end Ty

end CxxTrees
