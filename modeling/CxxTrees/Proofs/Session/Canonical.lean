import CxxTrees.Proofs.Build.Inherited
import CxxTrees.Proofs.Calls.Stops

/-!
# Canonical forms of answers

A canonical form is set once, at the root of a type that is answered, and never where there
is one.
-/

namespace CxxTrees.Session

/-- The root of a type has a canonical form, and no other type in its tree or in that of the
form has one. So no request fails for setting it twice. -/
theorem canonical_once (fe : Frontend) :
    (∀ site t, (fe.typeAt site).outcome = .ok t →
      ∃ form, t.canonical = some form ∧
        (∀ u, Relation.TransGen Ty.Part t u → u.canonical = none) ∧
        ∀ u, Relation.ReflTransGen Ty.Part form u → u.canonical = none) ∧
    ∀ options state registry request,
      (({ frontend := fe, options, state, registry } : Session).ask request).1 ≠
        .error (.fault .canonicalAlreadySet) := by
  constructor
  · intro site t built
    obtain ⟨declared, form, bare, bareForm, rfl⟩ := Frontend.typeAt_bare built
    refine ⟨form, rfl, fun u path => ?_, bareForm⟩
    obtain ⟨part, first, rest⟩ := Relation.TransGen.head'_iff.mp path
    -- The parts of the root are those of the declared type, whose node it has.
    exact bare u (.head first rest)
  · intro options state registry request stopped
    have admits : fe.Admits (· ≠ .fault .canonicalAlreadySet) := by
      constructor
      case invalid => exact fun _ => nofun
      case untyped => exact fun _ => nofun
      case toAdmitsBuild =>
        exact ⟨fun spelled => by cases spelled <;> nofun, .inl fun part => by cases part <;> nofun,
          .inl nofun, .inl nofun⟩
    exact ask_stopsBy admits (.inl nofun) stopped rfl

theorem canonical_once_boxes :
    (Frontend.boxes.frontend.typeAt ⟨.afterCount 4, .afterCount 2⟩).outcome =
      .ok Frontend.declaredBox ∧
    (∃ form, Frontend.declaredBox.canonical = some form ∧
      (∀ u, Relation.TransGen Ty.Part Frontend.declaredBox u → u.canonical = none) ∧
      ∀ u, Relation.ReflTransGen Ty.Part form u → u.canonical = none) ∧
    (({ frontend := Frontend.boxes.frontend } : Session).ask (.calls (.afterCount 4))).1 ≠
      .error (.fault .canonicalAlreadySet) := by
  obtain ⟨once, never⟩ := canonical_once Frontend.boxes.frontend
  exact ⟨Frontend.typeAt_declaredBox, once _ _ Frontend.typeAt_declaredBox, never _ _ _ _⟩

end CxxTrees.Session
