import CxxTrees.Build.Numbers

/-!
# The first reading that works

Readings are tried one after the other, each in the state that those before it have left.
The first one that does not pass ends the search, with an answer or a failure, and nothing
behind it is tried (`firstReading_run_iff`).
-/

namespace CxxTrees

section
variable {ε σ α β : Type} {note : String → EStateM ε σ Unit} {input : α} {s t : σ}
  {reading : Reading (EStateM ε σ) α β} {readings front : List (Reading (EStateM ε σ) α β)}
  {result : EStateM.Result ε σ (Option β)}

/-- Readings find nothing in the input, one after the other. -/
inductive AllPass (input : α) : List (Reading (EStateM ε σ) α β) → σ → σ → Prop
  | nil {s : σ} : AllPass input [] s s
  | cons {reading : Reading (EStateM ε σ) α β} {readings : List (Reading (EStateM ε σ) α β)}
      {s t u : σ} (run : (reading.run input).run s = .ok none t)
      (rest : AllPass input readings t u) : AllPass input (reading :: readings) s u

/-- A reading ends the search: it fails, or its answer is noted and taken. -/
inductive EndsSearch (note : String → EStateM ε σ Unit) (input : α)
    (reading : Reading (EStateM ε σ) α β) (s : σ) : EStateM.Result ε σ (Option β) → Prop
  | fails {e : ε} {t : σ} (run : (reading.run input).run s = .error e t) :
      EndsSearch note input reading s (.error e t)
  | works {answer : β} {t : σ} (run : (reading.run input).run s = .ok (some answer) t) :
      EndsSearch note input reading s
        ((do note reading.name; return some answer : EStateM _ _ _).run t)

theorem firstReading_of_passes (passes : AllPass input front s t)
    (back : List (Reading (EStateM ε σ) α β)) :
    (firstReading note input (front ++ back)).run s = (firstReading note input back).run t := by
  induction passes with
  | nil => rfl
  | cons run rest ih =>
    rw [List.cons_append, firstReading, EStateM.run_bind, run]
    exact ih

theorem firstReading_of_ends (ends : EndsSearch note input reading s result)
    (back : List (Reading (EStateM ε σ) α β)) :
    (firstReading note input (reading :: back)).run s = result := by
  cases ends with
  | fails run => rw [firstReading, EStateM.run_bind, run]
  | works run => rw [firstReading, EStateM.run_bind, run]

/-- A search ends without an answer if all readings pass, else as the first one decides that does
not. What is behind that one makes no difference. -/
theorem firstReading_run_iff : (firstReading note input readings).run s = result ↔
    (∃ t, AllPass input readings s t ∧ result = .ok none t) ∨
      ∃ front reading back t, readings = front ++ reading :: back ∧ AllPass input front s t ∧
        EndsSearch note input reading t result := by
  constructor
  · rintro rfl
    induction readings generalizing s with
    | nil => exact .inl ⟨s, .nil, rfl⟩
    | cons reading readings ih =>
      cases run : (reading.run input).run s with
      | error e t =>
        have ends : EndsSearch note input reading s (.error e t) := .fails run
        rw [firstReading_of_ends ends]
        exact .inr ⟨[], reading, readings, s, rfl, .nil, ends⟩
      | ok answer t =>
        cases answer with
        | some answer =>
          have ends : EndsSearch note input reading s _ := .works run
          rw [firstReading_of_ends ends]
          exact .inr ⟨[], reading, readings, s, rfl, .nil, ends⟩
        | none =>
          have later : (firstReading note input (reading :: readings)).run s =
              (firstReading note input readings).run t :=
            firstReading_of_passes (.cons run .nil) readings
          rw [later]
          rcases @ih t with ⟨u, rest, same⟩ | ⟨front, last, back, u, rfl, rest, ends⟩
          · exact .inl ⟨u, .cons run rest, same⟩
          · exact .inr ⟨reading :: front, last, back, u, rfl, .cons run rest, ends⟩
  · rintro (⟨t, passes, rfl⟩ | ⟨front, reading, back, t, rfl, passes, ends⟩)
    · rw [← List.append_nil readings, firstReading_of_passes passes]
      rfl
    · rw [firstReading_of_passes passes, firstReading_of_ends ends]

end

/-! ### Readings of numbers -/

namespace Trial
variable {n : UInt64} {name : String} {run : UInt64 → Except Fault (Option UInt64)}
  {front : List (String × (UInt64 → Except Fault (Option UInt64)))}

/-- Readings of numbers, each by its name and what it makes of a number. -/
def readings (tries : List (String × (UInt64 → Except Fault (Option UInt64)))) :
    List (Reading Trial UInt64 UInt64) :=
  tries.map fun r => reading r.1 r.2

theorem reading_run (name : String) (run : UInt64 → Except Fault (Option UInt64)) (j : Journal) :
    ((reading name run).run n).run j =
      match run n with
      | .ok answer => .ok answer { j with tried := j.tried ++ [name] }
      | .error fault => .error fault { j with tried := j.tried ++ [name] } := by
  dsimp only [reading]
  cases run n <;> rfl

theorem allPass_readings (passed : ∀ r ∈ front, r.2 n = .ok none) (j : Journal) :
    AllPass n (readings front) j { j with tried := j.tried ++ front.map Prod.fst } := by
  induction front generalizing j with
  | nil => simpa [readings] using AllPass.nil
  | cons r front ih =>
    have tried : ((reading r.1 r.2).run n).run j =
        .ok none { j with tried := j.tried ++ [r.1] } := by
      rw [reading_run, passed r List.mem_cons_self]
    have rest := ih (fun later member => passed later (List.mem_cons_of_mem r member))
      { j with tried := j.tried ++ [r.1] }
    rw [List.append_assoc] at rest
    exact .cons tried rest

/-- Readings that all pass have been tried in order, and none of them is in the log. -/
theorem first_of_passed (passed : ∀ r ∈ front, r.2 n = .ok none) (j : Journal) :
    (first n (readings front)).run j =
      .ok none { j with tried := j.tried ++ front.map Prod.fst } :=
  firstReading_run_iff.mpr (.inl ⟨_, allPass_readings passed j, rfl⟩)

/-- Those up to the first one that does not pass have been tried in order. It is the only one in
the log, unless it fails, and what is behind it is neither. -/
theorem first_of_ends (passed : ∀ r ∈ front, r.2 n = .ok none) (decides : run n ≠ .ok none)
    (back : List (String × (UInt64 → Except Fault (Option UInt64)))) (j : Journal) :
    (first n (readings (front ++ (name, run) :: back))).run j =
      let tried := j.tried ++ front.map Prod.fst ++ [name]
      match run n with
      | .ok answer => .ok answer ⟨tried, j.log ++ [(Event.reading name).line]⟩
      | .error fault => .error fault ⟨tried, j.log⟩ := by
  have parts : readings (front ++ (name, run) :: back) =
      readings front ++ reading name run :: readings back := List.map_append
  refine firstReading_run_iff.mpr (.inr ⟨_, _, _, _, parts, allPass_readings passed j, ?_⟩)
  have own := @reading_run n name run { j with tried := j.tried ++ front.map Prod.fst }
  cases outcome : run n with
  | error fault =>
    rw [outcome] at own
    exact .fails own
  | ok answer =>
    rw [outcome] at own
    cases answer with
    | none => exact absurd outcome decides
    | some answer => exact .works own

/-- The reading behind the one that works is not tried, although it would fail. -/
example : (first 3 (readings [("never", fun _ => .ok none), ("always", fun n => .ok (some n)),
    ("broken", fun _ => .error .canonicalAlreadySet)])).run {} =
    .ok (some 3) ⟨["never", "always"], ["TRACE 'always' strategy succeeded"]⟩ := rfl

end Trial

end CxxTrees
