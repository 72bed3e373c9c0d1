import CxxTrees.Calls.Run

/-!
# Answers, step by step

A build or a run that comes to an answer does so through an answer of every step.
The lemmas here take such a computation apart, one bind at a time.
-/

namespace CxxTrees

/-! ### Look-ups -/

theorem except_bind_ok {x : Except ε α} {f : α → Except ε β} {b : β}
    (h : x >>= f = .ok b) : ∃ a, x = .ok a ∧ f a = .ok b := by
  cases x with
  | ok a => exact ⟨a, rfl, h⟩
  | error e => cases h

theorem except_pure_ok {a b : α} (h : (pure a : Except ε α) = .ok b) : a = b :=
  Except.ok.inj h

namespace Frontend
variable {fe : Frontend}

theorem cursor_ok {c : Cursor} {facts : CursorFacts} (h : fe.cursor c = .ok facts) :
    fe.cursor? c = some facts := by
  unfold cursor at h
  split at h
  · cases h
    assumption
  · cases h

theorem type_ok {t : TypeHandle} {facts : TypeFacts} (h : fe.type t = .ok facts) :
    fe.type? t = some facts := by
  unfold type at h
  split at h
  · cases h
    assumption
  · cases h

theorem cursor_of_known {c : Cursor} {facts : CursorFacts} (known : fe.cursor? c = some facts) :
    fe.cursor c = .ok facts := by
  rw [cursor, known]

theorem type_of_known {t : TypeHandle} {facts : TypeFacts} (known : fe.type? t = some facts) :
    fe.type t = .ok facts := by
  rw [type, known]

end Frontend

/-! ### Builds -/

namespace Build

@[simp] theorem outcome_lift (x : Except Stop α) : (liftM x : Build α).outcome = x := rfl

theorem outcome_bind (x : Build α) (f : α → Build β) :
    (x >>= f).outcome = x.outcome >>= fun a => (f a).outcome := by
  cases h : x.outcome with
  | ok a => rw [bind_of_ok h]; rfl
  | error stop => rw [bind_of_error h]; rfl

theorem bind_ok {x : Build α} {f : α → Build β} {b : β} (h : (x >>= f).outcome = .ok b) :
    ∃ a, x.outcome = .ok a ∧ (f a).outcome = .ok b := by
  rw [outcome_bind] at h
  exact except_bind_ok h

theorem pure_ok {a b : α} (h : (pure a : Build α).outcome = .ok b) : a = b := Except.ok.inj h

theorem fail_ok {fault : Fault} {a : α} : (fail fault : Build α).outcome ≠ .ok a := by
  intro h
  cases h

end Build

/-! ### Runs -/

namespace Run

theorem bind_ok {x : Run α} {f : α → Run β} {b : β} {s t : RunState}
    (h : (x >>= f).run s = .ok b t) : ∃ a u, x.run s = .ok a u ∧ (f a).run u = .ok b t := by
  rw [EStateM.run_bind] at h
  cases hx : x.run s with
  | ok a u => rw [hx] at h; exact ⟨a, u, rfl, h⟩
  | error stop u => rw [hx] at h; cases h

theorem pure_ok {a b : α} {s t : RunState} (h : (pure a : Run α).run s = .ok b t) :
    a = b ∧ s = t := by
  cases h
  exact ⟨rfl, rfl⟩

theorem fail_ok {fault : Fault} {a : α} {s t : RunState} :
    (fail fault : Run α).run s ≠ .ok a t := by
  intro h
  cases h

theorem throw_ok {stop : Stop} {a : α} {s t : RunState} :
    (throw stop : Run α).run s ≠ .ok a t := by
  intro h
  cases h

/-- A look-up leaves the state as it is. -/
theorem lift_ok {x : Except Stop α} {a : α} {s t : RunState}
    (h : (liftM x : Run α).run s = .ok a t) : x = .ok a ∧ s = t := by
  cases x with
  | ok b =>
    cases h
    exact ⟨rfl, by simp⟩
  | error stop => cases h

/-- A build leaves the graph as it is. -/
theorem build_ok {x : Build α} {a : α} {s t : RunState}
    (h : (ofBuild x).run s = .ok a t) : x.outcome = .ok a ∧ t.graph = s.graph := by
  rcases x with ⟨events, outcome⟩
  cases outcome with
  | ok b =>
    cases h
    exact ⟨rfl, RunState.graph_noteAll⟩
  | error stop => cases h

theorem emit_ok {event : Event} {s t : RunState} (h : (emit event).run s = .ok () t) :
    t.graph = s.graph := by
  cases h
  rfl

theorem record_ok {f : EntityId} {call : Call} {s t : RunState}
    (h : (record f call).run s = .ok () t) : t.graph = s.graph.record f call := by
  cases h
  rfl

theorem reach_ok {f : EntityId} {fresh : Bool} {s t : RunState}
    (h : (reach f).run s = .ok fresh t) :
    fresh = !s.graph.contains f ∧ t.graph = s.graph.insert f := by
  cases h
  exact ⟨rfl, rfl⟩

end Run

end CxxTrees
