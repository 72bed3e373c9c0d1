import CxxTrees.Document

/-!
# Options

What is recorded of a run, and how far it follows calls.
-/

namespace CxxTrees

structure Options where
  /-- Record reports for debugging too. -/
  verbose : Bool := false
  /-- Record nothing. -/
  quiet : Bool := false
  /-- Record warnings as errors. -/
  warningsAsErrors : Bool := false
  /-- Collect the calls of the free functions that are called. -/
  followCallees : Bool := true
deriving DecidableEq

namespace Options

def toDocument (o : Options) : Document :=
  .object [
    ("verbose", .bool o.verbose),
    ("quiet", .bool o.quiet),
    ("warnings_as_errors", .bool o.warningsAsErrors),
    ("follow_callees", .bool o.followCallees)]

/-- Options that are missing keep their default. -/
def ofDocument? : Document → Option Options
  | .object fields => do
    let read (name : String) (default : Bool) : Option Bool :=
      match fields.lookup name with
      | none => some default
      | some d => d.bool?
    return {
      verbose := ← read "verbose" false
      quiet := ← read "quiet" false
      warningsAsErrors := ← read "warnings_as_errors" false
      followCallees := ← read "follow_callees" true }
  | _ => none

end Options

end CxxTrees
