import CxxTrees.Report

/-!
# Recorded reports

What an engine has recorded behind some reports: all of them that its flags let through, in
order, behind what it had recorded before.
-/

namespace CxxTrees

/-- A report as it is recorded. -/
def Report.recorded (warningsAsErrors : Bool) (r : Report) : Diagnostic where
  source := r.source
  level :=
    match r.severity with
    | .debug => .debug
    | .warning => if warningsAsErrors then .error else .warning
  message := r.message
  location := r.location

namespace DiagnosticEngine
variable (engine : DiagnosticEngine) (r : Report)

@[simp] theorem quiet_report : (engine.report r).quiet = engine.quiet := by
  unfold report record
  repeat' split
  all_goals rfl

@[simp] theorem verbose_report : (engine.report r).verbose = engine.verbose := by
  unfold report record
  repeat' split
  all_goals rfl

@[simp] theorem warningsAsErrors_report :
    (engine.report r).warningsAsErrors = engine.warningsAsErrors := by
  unfold report record
  repeat' split
  all_goals rfl

theorem diagnostics_report : (engine.report r).diagnostics = engine.diagnostics ++
    if engine.quiet then [] else
      if engine.verbose || r.severity != .debug then [r.recorded engine.warningsAsErrors] else [] := by
  rcases engine with ⟨diagnostics, warningsAsErrors, quiet, verbose⟩
  rcases r with ⟨source, severity, message, location⟩
  cases severity <;> cases quiet <;> cases verbose <;>
    simp [report, record, Report.at, Report.recorded]

/-- A quiet engine records nothing. Others record all but what only a verbose one does. -/
theorem diagnostics_foldl (reports : List Report) :
    (reports.foldl report engine).diagnostics = engine.diagnostics ++
      if engine.quiet then [] else
        (reports.filter fun r => engine.verbose || r.severity != .debug).map
          (Report.recorded engine.warningsAsErrors) := by
  induction reports generalizing engine with
  | nil => simp
  | cons r reports ih =>
    rw [List.foldl_cons, ih, diagnostics_report, quiet_report, verbose_report,
      warningsAsErrors_report, List.append_assoc, List.filter_cons]
    cases engine.quiet with
    | true => rfl
    | false =>
      cases engine.verbose || r.severity != .debug <;> rfl

end DiagnosticEngine

end CxxTrees
