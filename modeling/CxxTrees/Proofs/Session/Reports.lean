import CxxTrees.Proofs.Calls.GraphOnly
import CxxTrees.Proofs.Report

/-!
# Reports of a session

The engine of a session is not looked at while requests are answered, only given the reports.
So what it has recorded, at any time, is what its flags make of the reports so far
(`diagnostics_askAll`).
-/

namespace CxxTrees.Session
variable {s : Session} {request : Request}

/-- The answer to a request and the session after it, by the course of the run. -/
theorem ask_of_course {course : Course Answer}
    (run : (s.frontend.answer s.options request).run s.state = course.ends s.state) :
    s.ask request = (course.outcome, { s with state := course.leaves s.state }) := by
  unfold ask
  rw [run, Course.ends]
  cases course.outcome <;> rfl

theorem ask_options (s : Session) (request : Request) :
    (s.ask request).2.options = s.options := by
  unfold ask
  split <;> rfl

theorem askAll_options (s : Session) (requests : List Request) :
    (s.askAll requests).2.options = s.options := by
  induction requests generalizing s with
  | nil => rfl
  | cons request requests ih => exact (ih _).trans (ask_options s request)

/-- The engine has been given all reports so far, and nothing else. -/
def Reports (s : Session) : Prop :=
  s.state.engine = s.state.reports.foldl DiagnosticEngine.report (.ofOptions s.options)

theorem ask_reports (so_far : s.Reports) (request : Request) : (s.ask request).2.Reports := by
  obtain ⟨course, run⟩ := s.frontend.answer_graphOnly s.options request
  rw [ask_of_course (run s.state)]
  unfold Reports at so_far ⊢
  simp only [Course.leaves, RunState.engine_noteAll, RunState.events_noteAll, RunState.reports,
    List.filterMap_append, List.foldl_append] at so_far ⊢
  rw [so_far]

theorem askAll_reports (so_far : s.Reports) (requests : List Request) :
    (s.askAll requests).2.Reports := by
  induction requests generalizing s with
  | nil => exact so_far
  | cons request requests ih => exact ih (ask_reports so_far request)

/-- What is recorded after any requests are the reports that these made: none of them if the
session is quiet, and of the others those for debugging only if it is verbose. -/
theorem diagnostics_askAll (fe : Frontend) (options : Options) (requests : List Request) :
    let run := ((start fe options).askAll requests).2
    run.diagnostics = if options.quiet then [] else
      (run.state.reports.filter fun r => options.verbose || r.severity != .debug).map
        (Report.recorded options.warningsAsErrors) := by
  intro run
  have fresh : (start fe options).Reports := rfl
  have so_far : run.Reports := askAll_reports fresh requests
  have kept : run.options = options := askAll_options _ requests
  rw [diagnostics, so_far, kept]
  exact DiagnosticEngine.diagnostics_foldl _ _

end CxxTrees.Session
