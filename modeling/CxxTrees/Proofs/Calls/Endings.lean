import CxxTrees.Calls.Expression
import CxxTrees.Proofs.Build.Quiet
import CxxTrees.Proofs.Build.Runs
import CxxTrees.Proofs.Calls.Graph

/-!
# Endings of runs

A run ends with an answer or by a stop, and in either case leaves a state. The
lemmas here say of each step where it can end, so that what a run did until it
stopped can be followed as well as what it did for its answer.
-/

namespace CxxTrees

/-- The functions whose bodies were walked, in order. -/
def RunState.walks (s : RunState) : List Cursor := s.events.filterMap Event.walked?

namespace Run

/-- How a run ends: with an answer, or without one by a stop. -/
inductive Ends (x : Run α) (s : RunState) : Option α → RunState → Prop where
  | answered {a : α} {t : RunState} (h : x.run s = .ok a t) : Ends x s (some a) t
  | stopped {stop : Stop} {t : RunState} (h : x.run s = .error stop t) : Ends x s none t

variable {x : Run α} {f : α → Run β} {s t : RunState}

theorem ends_bind {b : Option β} (h : Ends (x >>= f) s b t) :
    b = none ∧ Ends x s none t ∨ ∃ a u, Ends x s (some a) u ∧ Ends (f a) u b t := by
  have step := EStateM.run_bind (x := x) (f := f) (s := s)
  cases first : x.run s with
  | ok a u =>
    rw [first] at step
    refine .inr ⟨a, u, .answered first, ?_⟩
    cases h with
    | answered h => exact .answered (step.symm.trans h)
    | stopped h => exact .stopped (step.symm.trans h)
  | error stop u =>
    rw [first] at step
    cases h with
    | answered h => cases step.symm.trans h
    | stopped h =>
      cases step.symm.trans h
      exact .inl ⟨rfl, .stopped first⟩

theorem ends_pure {a : α} {b : Option α} (h : Ends (pure a) s b t) : b = some a ∧ t = s := by
  cases h with
  | answered h =>
    cases h
    exact ⟨rfl, rfl⟩
  | stopped h => cases h

theorem ends_return {g : α → β} {b : Option β} (h : Ends (x >>= fun a => pure (g a)) s b t) :
    ∃ a : Option α, Ends x s a t ∧ a.isSome = b.isSome := by
  rcases ends_bind h with ⟨rfl, stopped⟩ | ⟨a, u, answered, rest⟩
  · exact ⟨none, stopped, rfl⟩
  · obtain ⟨rfl, rfl⟩ := ends_pure rest
    exact ⟨some a, answered, rfl⟩

theorem ends_throw {stop : Stop} {b : Option α} (h : Ends (throw stop : Run α) s b t) :
    b = none ∧ t = s := by
  cases h with
  | answered h => cases h
  | stopped h =>
    cases h
    exact ⟨rfl, rfl⟩

/-- A look-up leaves the state as it is. -/
theorem ends_lift {x : Except Stop α} {b : Option α} (h : Ends (liftM x : Run α) s b t) :
    t = s ∧ ∀ a, b = some a ↔ x = .ok a := by
  cases x with
  | ok a =>
    obtain ⟨rfl, rfl⟩ := ends_pure h
    exact ⟨rfl, fun a' => by simp⟩
  | error stop =>
    obtain ⟨rfl, rfl⟩ := ends_throw h
    exact ⟨rfl, fun a' => by simp⟩

theorem ends_look {x : Except Stop α} {b : Option β} (h : Ends (liftM x >>= f) s b t) :
    (b = none ∧ t = s ∧ ∀ a, x ≠ .ok a) ∨ ∃ a, x = .ok a ∧ Ends (f a) s b t := by
  rcases ends_bind h with ⟨none, stopped⟩ | ⟨a, u, looked, rest⟩
  · obtain ⟨same, found⟩ := ends_lift stopped
    refine .inl ⟨none, same, fun a known => ?_⟩
    cases (found a).mpr known
  · obtain ⟨same, found⟩ := ends_lift looked
    subst same
    exact .inr ⟨a, (found a).mp rfl, rest⟩

/-- A build that walks no body leaves the graph and the walks as they are. -/
theorem ends_build {x : Build α} (quiet : x.Quiet) {b : Option α}
    (h : Ends (ofBuild x) s b t) : t.graph = s.graph ∧ t.walks = s.walks := by
  have walks : (s.noteAll x.events).walks = s.walks := by
    rw [RunState.walks, RunState.events_noteAll, List.filterMap_append,
      Build.walks_of_quiet quiet, List.append_nil]
    rfl
  rcases x with ⟨events, outcome⟩
  cases outcome with
  | ok a =>
    cases h with
    | answered h =>
      cases h
      exact ⟨RunState.graph_noteAll, walks⟩
    | stopped h => cases h
  | error stop =>
    cases h with
    | answered h => cases h
    | stopped h =>
      cases h
      exact ⟨RunState.graph_noteAll, walks⟩

theorem ends_type {fe : Frontend} {site : Site} {b : Option Ty}
    (h : Ends (fe.typeIn Run site) s b t) : t.graph = s.graph ∧ t.walks = s.walks := by
  rw [Frontend.typeIn_run] at h
  exact ends_build (Frontend.typeAt_quiet site) h

theorem ends_get {b : Option RunState} (h : Ends (get : Run RunState) s b t) :
    b = some s ∧ t = s := by
  cases h with
  | answered h =>
    cases h
    exact ⟨rfl, rfl⟩
  | stopped h => cases h

theorem ends_modify {change : RunState → RunState} {b : Option Unit}
    (h : Ends (modify change : Run Unit) s b t) : b = some () ∧ t = change s := by
  cases h with
  | answered h =>
    cases h
    exact ⟨rfl, rfl⟩
  | stopped h => cases h

theorem ends_emit {event : Event} {b : Option Unit} (h : Ends (emit event) s b t) :
    b = some () ∧ t.graph = s.graph ∧ t.walks = s.walks ++ event.walked?.toList := by
  obtain ⟨rfl, rfl⟩ := ends_modify h
  refine ⟨rfl, rfl, ?_⟩
  rw [RunState.walks, RunState.events_note, List.filterMap_append]
  cases walked : event.walked? <;> simp [RunState.walks, walked]

theorem ends_reach {id : EntityId} {b : Option Bool} (h : Ends (reach id) s b t) :
    b = some (!s.graph.contains id) ∧ t.graph = s.graph.insert id ∧ t.walks = s.walks := by
  cases h with
  | answered h =>
    cases h
    exact ⟨rfl, rfl, rfl⟩
  | stopped h => cases h

/-! ### Known answers -/

theorem run_bind {a : α} (first : x.run s = .ok a t) : (x >>= f).run s = (f a).run t := by
  rw [EStateM.run_bind, first]

theorem run_look {x : Except Stop α} {a : α} (looked : x = .ok a) :
    (liftM x >>= f).run s = (f a).run s := by
  rw [looked]
  rfl

theorem run_build {x : Build α} {a : α} (built : x.outcome = .ok a) (s : RunState) :
    (ofBuild x).run s = .ok a (s.noteAll x.events) := by
  rcases x with ⟨events, outcome⟩
  cases built
  rfl

theorem run_reach {id : EntityId} (present : s.graph.contains id = true) :
    (reach id).run s = .ok false s := by
  have same : s.graph.insert id = s.graph := CallGraph.insert_of_contains present
  show EStateM.Result.ok (!s.graph.contains id) { s with graph := s.graph.insert id } = .ok false s
  rw [present, same]
  rfl

end Run

end CxxTrees
