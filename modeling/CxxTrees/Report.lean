import CxxTrees.Frontend.Basic
import CxxTrees.Options

/-!
# Reports

Advice that a run gives on its way. Every report goes to the log; the flags of an
engine decide which are recorded, and at which level.
-/

namespace CxxTrees

inductive Severity where
  | debug | warning
deriving DecidableEq

structure Report where
  /-- The component that reports. -/
  source : String
  severity : Severity
  message : String
  location : Option Location
deriving DecidableEq

def Report.line (r : Report) : String :=
  (match r.severity with
    | .debug => "DEBUG "
    | .warning => "WARN ") ++ r.source ++ ": " ++ r.message

inductive Level where
  | debug | warning | error
deriving DecidableEq

def Level.name : Level → String
  | .debug => "debug"
  | .warning => "warning"
  | .error => "error"

/-- A recorded report. -/
structure Diagnostic where
  source : String
  level : Level
  message : String
  location : Option Location
deriving DecidableEq

/-- A report as a diagnostic of a level. -/
def Report.at (r : Report) (level : Level) : Diagnostic where
  source := r.source
  level := level
  message := r.message
  location := r.location

/-- Records reports, in order, as far as its flags ask for them. -/
structure DiagnosticEngine where
  diagnostics : List Diagnostic := []
  warningsAsErrors : Bool := false
  quiet : Bool := false
  verbose : Bool := false
deriving DecidableEq

namespace DiagnosticEngine

def ofOptions (o : Options) : DiagnosticEngine where
  warningsAsErrors := o.warningsAsErrors
  quiet := o.quiet
  verbose := o.verbose

def record (engine : DiagnosticEngine) (d : Diagnostic) : DiagnosticEngine :=
  if engine.quiet then engine else { engine with diagnostics := engine.diagnostics ++ [d] }

def report (engine : DiagnosticEngine) (r : Report) : DiagnosticEngine :=
  match r.severity with
  | .debug => if engine.verbose then engine.record (r.at .debug) else engine
  | .warning => engine.record (r.at (if engine.warningsAsErrors then .error else .warning))

def hasErrors (engine : DiagnosticEngine) : Bool := engine.diagnostics.any (·.level == .error)

end DiagnosticEngine

end CxxTrees
