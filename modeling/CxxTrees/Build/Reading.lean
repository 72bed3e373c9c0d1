/-!
# Readings

Some inputs can be read in several ways, and the first reading that works is
taken. A reading that finds nothing leaves the input to the next; one that
fails ends the search.
-/

namespace CxxTrees

/-- One way to read an input, under the name that is noted when it works. -/
structure Reading (m : Type → Type) (α β : Type) where
  name : String
  run : α → m (Option β)

def firstReading [Monad m] (note : String → m Unit) (input : α) :
    List (Reading m α β) → m (Option β)
  | [] => pure none
  | reading :: readings => do
    match ← reading.run input with
    | some answer =>
      note reading.name
      return some answer
    | none => firstReading note input readings

end CxxTrees
