import CxxTrees.Entity

/-!
# Call graphs

For every function that was reached, in the order in which that happened, the
calls in its body in source order.
-/

namespace CxxTrees

structure CallGraph where
  entries : List (EntityId × List Call) := []
deriving DecidableEq

namespace CallGraph

def empty : CallGraph := {}

/-- The functions that were reached, in order. -/
def functions (g : CallGraph) : List EntityId := g.entries.map Prod.fst

def contains (g : CallGraph) (f : EntityId) : Bool := g.entries.any (·.1 == f)

/-- Marks a function as reached. -/
def insert (g : CallGraph) (f : EntityId) : CallGraph :=
  if g.contains f then g else ⟨g.entries ++ [(f, [])]⟩

/-- Adds a call to those of a function, which is reached by it. -/
def record (g : CallGraph) (f : EntityId) (call : Call) : CallGraph :=
  ⟨(g.insert f).entries.map fun e => if e.1 = f then (e.1, e.2 ++ [call]) else e⟩

/-- The calls that a function makes. -/
def callsFrom (g : CallGraph) (f : EntityId) : List Call := (g.entries.lookup f).getD []

/-- The calls of a method, by whatever function. -/
def callersOf (g : CallGraph) (method : EntityId) : List Call :=
  (g.entries.flatMap Prod.snd).filter (·.calleeMethod == method)

end CallGraph

end CxxTrees
