import CxxTrees.Proofs.Calls.FirstWalk
import CxxTrees.Proofs.Calls.Stops
import CxxTrees.Proofs.Snapshot.Links

/-!
# Termination of requests

Where types are made of types of a lower rank, and neither children nor semantic parents
run in a circle, every request ends. The links that are left may run in circles: a
reference leads to a body that is walked once for its id, and a declaration or a template
is looked at and not entered.
-/

namespace CxxTrees

theorem Frontend.admits_of_acyclic {fe : Frontend} (acyclic : fe.Acyclic) :
    fe.Admits (· ≠ .endless) where
  spelling _ := nofun
  parts := .inl fun _ => nofun
  invalid _ := nofun
  untyped _ := nofun
  outside := .inl nofun
  endless := .inr acyclic

namespace Session
variable {fe : Frontend} {walks : List Cursor}

/-- Cursors that share no id have one each, and these are all different. -/
theorem exists_ids (known : ∀ g ∈ walks, ∃ id, fe.HasEntity g id)
    (once : walks.Pairwise fun g g' => ∀ id, fe.HasEntity g id → ¬ fe.HasEntity g' id) :
    ∃ ids, List.Forall₂ fe.HasEntity walks ids ∧ ids.Nodup := by
  induction once with
  | nil => exact ⟨[], .nil, .nil⟩
  | @cons g walks apart _ ih =>
    obtain ⟨id, entity⟩ := known g List.mem_cons_self
    obtain ⟨ids, entities, nodup⟩ := ih fun g' member => known g' (List.mem_cons_of_mem g member)
    refine ⟨id :: ids, .cons entity entities, List.nodup_cons.mpr ⟨?_, nodup⟩⟩
    intro member
    obtain ⟨g', member', entity'⟩ : ∃ g' ∈ walks, fe.HasEntity g' id := by
      obtain ⟨i, inside, same⟩ := List.getElem_of_mem member
      have inside' : i < walks.length := entities.length_eq ▸ inside
      have entity' : fe.HasEntity walks[i] ids[i] := entities.get inside' inside
      rw [same] at entity'
      exact ⟨walks[i], List.getElem_mem inside', entity'⟩
    exact apart g' member' id entity entity'

theorem walks_once (fe : Frontend) (options : Options) (requests : List Request) :
    ∃ ids, List.Forall₂ fe.HasEntity ((start fe options).askAll requests).2.state.walks ids ∧
      ids.Nodup := by
  obtain ⟨walks, run⟩ := (start fe options).askAll_follows requests
  have all : ((start fe options).askAll requests).2.state.walks = walks := run.state.walked
  rw [all]
  apply exists_ids _ run.state.once
  intro g member
  exact Frontend.exists_hasEntity (run.state.read g member)

theorem askAll_append (s : Session) (requests later : List Request) :
    (s.askAll (requests ++ later)).2 = ((s.askAll requests).2.askAll later).2 := by
  induction requests generalizing s with
  | nil => rfl
  | cons request requests ih => exact ih (s.ask request).2

/-- Whatever the references, declarations, templates and ids are and whatever was asked for
before, a request ends, and of all cursors with one id the body of at most one is walked. -/
theorem ask_terminates (acyclic : fe.Acyclic) (options : Options) (requests : List Request)
    (request : Request) :
    let s := ((start fe options).askAll requests).2
    (s.ask request).1 ≠ .error .endless ∧
      ∃ ids, List.Forall₂ fe.HasEntity (s.ask request).2.state.walks ids ∧ ids.Nodup := by
  intro s
  constructor
  · intro stopped
    obtain ⟨_, run⟩ := (start fe options).askAll_follows requests
    have admits : s.frontend.Admits (· ≠ .endless) := by
      rw [show s.frontend = fe from run.frontend]
      exact Frontend.admits_of_acyclic acyclic
    exact ask_stopsBy admits (.inl nofun) stopped rfl
  · have last : (s.ask request).2 = ((start fe options).askAll (requests ++ [request])).2 :=
      (askAll_append _ requests [request]).symm
    rw [last]
    exact walks_once fe options _

/-- Two functions that call each other, the first one itself as well, and a template that is
its own primary template and is declared by its own type. -/
def circular : Snapshot where
  cursors := #[
    { kind := .functionDecl, spelling := "f", entity := ⟨"f"⟩,
      children := [.afterCount 1, .afterCount 2] },
    { kind := .callExpr, spelling := "f", entity := ⟨"first"⟩, type := some (.afterCount 1),
      referenced := some (.afterCount 0), tokens := ["f", "(", ")"] },
    { kind := .callExpr, spelling := "g", entity := ⟨"second"⟩, type := some (.afterCount 1),
      referenced := some (.afterCount 3), tokens := ["g", "(", ")"] },
    { kind := .functionDecl, spelling := "g", entity := ⟨"g"⟩, children := [.afterCount 4] },
    { kind := .callExpr, spelling := "f", entity := ⟨"third"⟩, type := some (.afterCount 1),
      referenced := some (.afterCount 0), tokens := ["f", "(", ")"] },
    { kind := .classTemplate, spelling := "Box", entity := ⟨"Box"⟩, type := some (.afterCount 1),
      specializedTemplate := some (.afterCount 5) }]
  types := #[
    { kind := .int, spelling := "int" },
    { kind := .elaborated, spelling := "Box<int>", declaration := some (.afterCount 5),
      arguments := some [some (.afterCount 0)] }]

theorem ask_terminates_circular :
    circular.frontend.Acyclic ∧
    let s := ((start circular.frontend {}).askAll [.type ⟨.afterCount 5, .afterCount 1⟩]).2
    (s.ask (.calls (.afterCount 0))).1 ≠ .error .endless ∧
      ∃ ids, List.Forall₂ circular.frontend.HasEntity
        (s.ask (.calls (.afterCount 0))).2.state.walks ids ∧ ids.Nodup := by
  have acyclic : circular.frontend.Acyclic := Snapshot.acyclic_of_ordered (by decide)
  exact ⟨acyclic, ask_terminates acyclic {} _ _⟩

end Session
end CxxTrees
