import CxxTrees.Build.Basic
import CxxTrees.Build.Reading

/-!
# Readings of numbers

A small set of readings to try chains of them on. Each notes that it was tried,
whether it then works or not.
-/

namespace CxxTrees

/-- The readings that were tried, and the log of those that worked. -/
structure Journal where
  tried : List String := []
  log : List String := []
deriving DecidableEq

abbrev Trial := EStateM Fault Journal

namespace Trial

def reading (name : String) (run : UInt64 → Except Fault (Option UInt64)) :
    Reading Trial UInt64 UInt64 where
  name := name
  run n := do
    modify fun j => { j with tried := j.tried ++ [name] }
    match run n with
    | .ok answer => return answer
    | .error fault => throw fault

/-- A part of a number that it is a multiple of. -/
def divided (d n : UInt64) : Option UInt64 := if n % d = 0 then some (n / d) else none

def all : List (Reading Trial UInt64 UInt64) :=
  [reading "never" fun _ => .ok none,
    reading "even" fun n => .ok (divided 2 n),
    reading "third" fun n => .ok (divided 3 n),
    reading "always" fun n => .ok (some n),
    reading "broken" fun _ => .error .canonicalAlreadySet]

def ofName? (name : String) : Option (Reading Trial UInt64 UInt64) := all.find? (·.name == name)

def first (n : UInt64) (readings : List (Reading Trial UInt64 UInt64)) : Trial (Option UInt64) :=
  let note (name : String) : Trial Unit :=
    modify fun j => { j with log := j.log ++ [(Event.reading name).line] }
  firstReading note n readings

end Trial

end CxxTrees
