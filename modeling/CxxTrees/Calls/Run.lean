import CxxTrees.Build.Basic
import CxxTrees.Calls.Graph

/-!
# Runs

The state that requests to one frontend share: the call graph, the engine that
records reports, and the events so far. A request that stops leaves what it did
until then.
-/

namespace CxxTrees

structure RunState where
  graph : CallGraph := {}
  engine : DiagnosticEngine := {}
  events : List Event := []
deriving DecidableEq

namespace RunState

/-- An event goes to the log, and the engine takes it if it is a report. -/
def note (s : RunState) (event : Event) : RunState :=
  { s with
    engine := event.report?.elim s.engine s.engine.report
    events := s.events ++ [event] }

def noteAll (s : RunState) (events : List Event) : RunState := events.foldl note s

/-- The reports so far, in order. -/
def reports (s : RunState) : List Report := s.events.filterMap Event.report?

section
variable {s : RunState} {event : Event} {events later : List Event}

@[simp] theorem graph_note : (s.note event).graph = s.graph := rfl

@[simp] theorem events_note : (s.note event).events = s.events ++ [event] := rfl

@[simp] theorem noteAll_nil : s.noteAll [] = s := rfl

theorem noteAll_eq : s.noteAll events =
    { s with
      engine := (events.filterMap Event.report?).foldl DiagnosticEngine.report s.engine
      events := s.events ++ events } := by
  induction events generalizing s with
  | nil => simp [noteAll]
  | cons event events ih =>
    show (s.note event).noteAll events = _
    rw [ih, List.filterMap_cons]
    cases reported : event.report? <;> simp [note, reported]

theorem noteAll_append : s.noteAll (events ++ later) = (s.noteAll events).noteAll later :=
  List.foldl_append

@[simp] theorem graph_noteAll : (s.noteAll events).graph = s.graph := by
  rw [noteAll_eq]

@[simp] theorem events_noteAll : (s.noteAll events).events = s.events ++ events := by
  rw [noteAll_eq]

@[simp] theorem engine_noteAll : (s.noteAll events).engine =
    (events.filterMap Event.report?).foldl DiagnosticEngine.report s.engine := by
  rw [noteAll_eq]

end

end RunState

abbrev Run := EStateM Stop RunState

namespace Run

def ofExcept : Except Stop α → Run α
  | .ok a => pure a
  | .error stop => throw stop

instance : MonadLift (Except Stop) Run := ⟨ofExcept⟩

/-- A build for itself, as a part of a run: its events happen, and it ends as it does. -/
def ofBuild (b : Build α) : Run α := do
  modify (·.noteAll b.events)
  ofExcept b.outcome

instance : MonadLift Build Run := ⟨ofBuild⟩

def fail (fault : Fault) : Run α := throw (.fault fault)

def emit (event : Event) : Run Unit := modify (·.note event)

instance : MonadEvents Run := ⟨emit⟩

/-- Marks a function as reached, and tells whether it was not before. -/
def reach (f : EntityId) : Run Bool := do
  let fresh := !(← get).graph.contains f
  modify fun s => { s with graph := s.graph.insert f }
  return fresh

def record (f : EntityId) (call : Call) : Run Unit :=
  modify fun s => { s with graph := s.graph.record f call }

end Run

end CxxTrees
