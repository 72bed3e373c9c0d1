import Mathlib.Logic.Relation
import CxxTrees.Calls.Expression
import CxxTrees.Proofs.Calls.Graph
import CxxTrees.Proofs.Frontend.SourceOrder

/-!
# Calls of a body

What the call graph should say of a function, read off the tables alone: the
calls written below it, and the functions these lead to.
-/

namespace CxxTrees

/-- A call expression with its parentheses. -/
def CursorFacts.IsWrittenCall (facts : CursorFacts) : Prop :=
  facts.kind = .callExpr ∧ facts.tokens.getLast? = some ")"

instance (facts : CursorFacts) : Decidable facts.IsWrittenCall :=
  inferInstanceAs (Decidable (_ ∧ _))

namespace Frontend
variable (fe : Frontend)

def HasEntity (c : Cursor) (id : EntityId) : Prop :=
  ∃ facts, fe.cursor? c = some facts ∧ facts.entity = id

def DistinctEntities : Prop := ∀ c d id, fe.HasEntity c id → fe.HasEntity d id → c = d

/-- The call written at a cursor in a scope, if its target resolves. -/
def callAt (scope : CallScope) (c : Cursor) : Option Call :=
  match fe.cursor? c with
  | none => none
  | some facts =>
    if facts.IsWrittenCall then
      match fe.callTarget facts with
      | .ok (some target) => some {
          caller := scope.ofClass.or scope.function
          callerMethod := scope.function
          callee := target.callee
          calleeMethod := target.method }
      | _ => none
    else none

/-- The graph has exactly the calls written below `f`, in source order and in
the scope of `f`. -/
def HasBodyCalls (graph : CallGraph) (f : Cursor) : Prop :=
  ∃ facts scope order, fe.cursor? f = some facts ∧ fe.scopeOf f = .ok scope ∧
    fe.OrderBelow f order ∧ graph.callsFrom facts.entity = order.filterMap (fe.callAt scope)

def CallsFunctionAt (c f : Cursor) : Prop :=
  ∃ facts target, fe.cursor? c = some facts ∧ facts.IsWrittenCall ∧
    facts.referenced = some f ∧ fe.cursor? f = some target ∧ target.kind = .functionDecl

/-- A call of the free function `g` is written below `f`. -/
def CallsFunction (f g : Cursor) : Prop :=
  ∃ order, fe.OrderBelow f order ∧ ∃ c ∈ order, fe.CallsFunctionAt c g

/-- Collecting the calls of `f` takes up `g`: `f` itself or, where callees are
followed, a free function that a chain of calls leads to. -/
def LeadsTo (options : Options) (f g : Cursor) : Prop :=
  f = g ∨ options.followCallees = true ∧ Relation.TransGen fe.CallsFunction f g

variable {fe} {options : Options} {f g h : Cursor}

theorem leadsTo_refl : fe.LeadsTo options f f := .inl rfl

theorem leadsTo_head (follow : options.followCallees = true) (call : fe.CallsFunction f g)
    (rest : fe.LeadsTo options g h) : fe.LeadsTo options f h := by
  rcases rest with rfl | ⟨_, chain⟩
  · exact .inr ⟨follow, .single call⟩
  · exact .inr ⟨follow, .head call chain⟩

theorem hasEntity_unique {id id' : EntityId} (first : fe.HasEntity f id)
    (second : fe.HasEntity f id') : id = id' := by
  obtain ⟨facts, known, rfl⟩ := first
  obtain ⟨facts', known', rfl⟩ := second
  rw [Option.mem_unique known known']

/-- Only a function's own entry decides whether its calls are all there. -/
theorem hasBodyCalls_of_callsFrom {graph graph' : CallGraph} {id : EntityId}
    (calls : fe.HasBodyCalls graph f) (entity : fe.HasEntity f id)
    (same : graph'.callsFrom id = graph.callsFrom id) : fe.HasBodyCalls graph' f := by
  obtain ⟨facts, scope, order, known, seen, below, recorded⟩ := calls
  obtain rfl := hasEntity_unique entity ⟨facts, known, rfl⟩
  exact ⟨facts, scope, order, known, seen, below, same.trans recorded⟩

theorem hasBodyCalls_agree {graph graph' : CallGraph} {id : EntityId}
    (calls : fe.HasBodyCalls graph f) (calls' : fe.HasBodyCalls graph' f)
    (entity : fe.HasEntity f id) : graph.callsFrom id = graph'.callsFrom id := by
  obtain ⟨facts, scope, order, known, seen, below, recorded⟩ := calls
  obtain ⟨facts', scope', order', known', seen', below', recorded'⟩ := calls'
  obtain rfl := hasEntity_unique entity ⟨facts, known, rfl⟩
  obtain rfl := Option.mem_unique known known'
  obtain rfl := orderBelow_unique below below'
  obtain rfl := Except.ok.inj (seen.symm.trans seen')
  rw [recorded, recorded']

end Frontend

end CxxTrees
