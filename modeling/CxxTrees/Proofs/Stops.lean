import CxxTrees.Proofs.Calls.Graph
import CxxTrees.Proofs.Outcome

/-!
# Stops

`StopsBy P x` says that `x`, where it has no answer, stops for a reason with `P`.
Look-ups, builds and runs are followed in the same way, one bind at a time; a run
also keeps a condition on the state as long as it goes on.
-/

namespace CxxTrees
variable {P : Stop → Prop}

/-! ### Look-ups -/

def StopsBy (P : Stop → Prop) (x : Except Stop α) : Prop := ∀ stop, x = .error stop → P stop

theorem stopsBy_ok (a : α) : StopsBy P (.ok a : Except Stop α) := nofun

theorem stopsBy_pure (a : α) : StopsBy P (pure a : Except Stop α) := stopsBy_ok a

theorem stopsBy_error {stop : Stop} (admitted : P stop) :
    StopsBy P (.error stop : Except Stop α) := by
  intro other same
  cases same
  exact admitted

theorem stopsBy_bind {x : Except Stop α} {f : α → Except Stop β} (first : StopsBy P x)
    (rest : ∀ a, x = .ok a → StopsBy P (f a)) : StopsBy P (x >>= f) := by
  cases x with
  | ok a => exact rest a rfl
  | error stop => exact stopsBy_error (first stop rfl)

theorem stopsBy_return {x : Except Stop α} {g : α → β} (first : StopsBy P x) :
    StopsBy P (do return g (← x)) := stopsBy_bind first fun a _ => stopsBy_pure (g a)

theorem mapM_stopsBy {f : α → Except Stop β} {list : List α}
    (each : ∀ a ∈ list, StopsBy P (f a)) : StopsBy P (list.mapM f) := by
  induction list with
  | nil => exact stopsBy_pure []
  | cons a list ih =>
    rw [List.mapM_cons]
    refine stopsBy_bind (each a List.mem_cons_self) fun b _ => ?_
    refine stopsBy_bind (ih fun later member => each later (List.mem_cons_of_mem a member)) ?_
    exact fun more _ => stopsBy_pure (b :: more)

theorem mapM_ok {f : α → Except Stop β} {list : List α} {answers : List β}
    (h : list.mapM f = .ok answers) : ∀ b ∈ answers, ∃ a ∈ list, f a = .ok b := by
  induction list generalizing answers with
  | nil =>
    obtain rfl := except_pure_ok h
    intro b member
    cases member
  | cons a list ih =>
    rw [List.mapM_cons] at h
    obtain ⟨b, first, h⟩ := except_bind_ok h
    obtain ⟨more, rest, h⟩ := except_bind_ok h
    obtain rfl := except_pure_ok h
    intro other member
    rcases List.mem_cons.mp member with rfl | later
    · exact ⟨a, List.mem_cons_self, first⟩
    · obtain ⟨a', member, found⟩ := ih rest other later
      exact ⟨a', List.mem_cons_of_mem a member, found⟩

theorem exists_mapM {f : α → Except Stop β} {list : List α} (each : ∀ a ∈ list, ∃ b, f a = .ok b) :
    ∃ answers, list.mapM f = .ok answers := by
  induction list with
  | nil => exact ⟨[], rfl⟩
  | cons a list ih =>
    obtain ⟨b, first⟩ := each a List.mem_cons_self
    obtain ⟨more, rest⟩ := ih fun later member => each later (List.mem_cons_of_mem a member)
    refine ⟨b :: more, ?_⟩
    rw [List.mapM_cons, first, rest]
    rfl

/-! ### Builds -/

namespace Build
variable {x : Build α} {f : α → Build β}

def StopsBy (P : Stop → Prop) (x : Build α) : Prop := CxxTrees.StopsBy P x.outcome

theorem stopsBy_pure (a : α) : (pure a : Build α).StopsBy P := stopsBy_ok a

theorem stopsBy_fail {fault : Fault} (admitted : P (.fault fault)) :
    (fail fault : Build α).StopsBy P := stopsBy_error admitted

theorem stopsBy_emit (event : Event) : (emit event).StopsBy P := stopsBy_ok ()

theorem stopsBy_bind (first : x.StopsBy P) (rest : ∀ a, x.outcome = .ok a → (f a).StopsBy P) :
    (x >>= f).StopsBy P := by
  unfold StopsBy
  rw [outcome_bind]
  exact CxxTrees.stopsBy_bind first rest

theorem stopsBy_return {g : α → β} (first : x.StopsBy P) :
    (do return g (← x) : Build β).StopsBy P := stopsBy_bind first fun a _ => stopsBy_pure (g a)

theorem stopsBy_lift {x : Except Stop α} (first : CxxTrees.StopsBy P x) :
    (liftM x : Build α).StopsBy P := first

theorem stopsBy_look {x : Except Stop α} (first : CxxTrees.StopsBy P x)
    (rest : ∀ a, x = .ok a → (f a).StopsBy P) : (liftM x >>= f).StopsBy P :=
  stopsBy_bind (stopsBy_lift first) rest

end Build

/-! ### Runs -/

namespace Run
variable {I : RunState → Prop} {x : Run α} {f : α → Run β}

/-- From a state with `I`, a run that goes on keeps `I`, and one that stops does so by `P`. -/
def StopsBy (P : Stop → Prop) (I : RunState → Prop) (x : Run α) : Prop :=
  ∀ s, I s → (∀ stop t, x.run s = .error stop t → P stop) ∧ ∀ a t, x.run s = .ok a t → I t

theorem stopsBy_pure (a : α) : (pure a : Run α).StopsBy P I := by
  refine fun s init => ⟨nofun, fun b t h => ?_⟩
  obtain ⟨_, rfl⟩ := pure_ok h
  exact init

theorem stopsBy_throw {stop : Stop} (admitted : P stop) : (throw stop : Run α).StopsBy P I := by
  refine fun s init => ⟨fun other t h => ?_, fun a t h => absurd h throw_ok⟩
  cases h
  exact admitted

theorem stopsBy_bind (first : x.StopsBy P I) (rest : ∀ a, (f a).StopsBy P I) :
    (x >>= f).StopsBy P I := by
  intro s init
  obtain ⟨stops, keeps⟩ := first s init
  refine ⟨fun stop t h => ?_, fun b t h => ?_⟩
  · rw [EStateM.run_bind] at h
    cases ended : x.run s with
    | ok a u =>
      rw [ended] at h
      exact (rest a u (keeps a u ended)).1 stop t h
    | error stop' u =>
      rw [ended] at h
      cases h
      exact stops _ _ ended
  · obtain ⟨a, u, ended, h⟩ := bind_ok h
    exact (rest a u (keeps a u ended)).2 b t h

theorem stopsBy_return {g : α → β} (first : x.StopsBy P I) :
    (do return g (← x) : Run β).StopsBy P I := stopsBy_bind first fun a => stopsBy_pure (g a)

theorem stopsBy_look {x : Except Stop α} (first : CxxTrees.StopsBy P x)
    (rest : ∀ a, x = .ok a → (f a).StopsBy P I) : (liftM x >>= f).StopsBy P I := by
  cases x with
  | ok a => exact rest a rfl
  | error stop => exact stopsBy_throw (first stop rfl)

theorem stopsBy_build {x : Build α} (first : x.StopsBy P)
    (graph : ∀ s t, I s → t.graph = s.graph → I t) : (ofBuild x).StopsBy P I := by
  intro s init
  refine ⟨fun stop t h => ?_, fun a t h => graph s t init (build_ok h).2⟩
  rcases x with ⟨events, outcome⟩
  cases outcome with
  | ok a => cases h
  | error stop' =>
    cases h
    exact first _ rfl

theorem stopsBy_get : (get : Run RunState).StopsBy P I := by
  refine fun s init => ⟨nofun, fun a t h => ?_⟩
  cases h
  exact init

theorem stopsBy_modify {change : RunState → RunState} (keeps : ∀ s, I s → I (change s)) :
    (modify change : Run Unit).StopsBy P I := by
  refine fun s init => ⟨nofun, fun a t h => ?_⟩
  cases h
  exact keeps s init

/-- What follows on marking an id may rely on it that the id had no entry, if it had none. -/
theorem stopsBy_reach {J : RunState → Prop} {id : EntityId} {f : Bool → Run β}
    (old : (f false).StopsBy P I) (fresh : (f true).StopsBy P J)
    (marked : ∀ s, I s → s.graph.contains id = false → J { s with graph := s.graph.insert id })
    (weaken : ∀ s, J s → I s) : (reach id >>= f).StopsBy P I := by
  intro s init
  have step : (reach id >>= f).run s =
      (f !s.graph.contains id).run { s with graph := s.graph.insert id } := rfl
  rw [step]
  cases present : s.graph.contains id with
  | true =>
    rw [CallGraph.insert_of_contains present]
    exact old s init
  | false =>
    obtain ⟨stops, keeps⟩ := fresh _ (marked s init present)
    exact ⟨stops, fun b t h => weaken t (keeps b t h)⟩

theorem forM_stopsBy {f : α → Run PUnit} {list : List α}
    (each : ∀ a ∈ list, (f a).StopsBy P I) : (list.forM f).StopsBy P I := by
  induction list with
  | nil => exact stopsBy_pure ()
  | cons a list ih =>
    refine stopsBy_bind (each a List.mem_cons_self) fun _ => ih fun later member => ?_
    exact each later (List.mem_cons_of_mem a member)

end Run

end CxxTrees
