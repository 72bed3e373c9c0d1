import Mathlib.Data.List.Induction
import CxxTrees.Calls.Run
import CxxTrees.Proofs.Calls.Graph

/-!
# What a call graph holds

A graph comes about by changes: a function is marked as reached, or a call of it is recorded,
in any order and as often as it may be. What it then says of every function and of every method
can be read off the list of the changes (`graph_of_changes`).
-/

namespace CxxTrees

inductive Change where
  | reach (f : EntityId)
  | record (f : EntityId) (call : Call)
deriving DecidableEq

namespace Change

/-- The function that a change names. -/
def function : Change → EntityId
  | reach f => f
  | record f _ => f

def call? : Change → Option Call
  | reach _ => none
  | record _ call => some call

/-- The call that is recorded under `f`. -/
def callOf? (f : EntityId) (change : Change) : Option Call :=
  if change.function = f then change.call? else none

/-- Makes a change in a run. For a mark the answer is whether the function is new. -/
def run : Change → Run (Option Bool)
  | reach f => some <$> Run.reach f
  | record f call => do
    Run.record f call
    return none

def apply (g : CallGraph) : Change → CallGraph
  | reach f => g.insert f
  | record f call => g.record f call

/-- The answer to a change that follows others. -/
def answer (before : List Change) : Change → Option Bool
  | reach f => some (decide (f ∉ before.map function))
  | record _ _ => none

end Change

namespace CallGraph
variable {g : CallGraph} {f : EntityId} {change : Change} {changes : List Change}

/-! ### One change -/

theorem functions_apply : (change.apply g).functions = (g.insert change.function).functions := by
  cases change with
  | reach f => rfl
  | record f call => exact functions_record

theorem callsFrom_apply :
    (change.apply g).callsFrom f = g.callsFrom f ++ (change.callOf? f).toList := by
  cases change with
  | reach f' =>
    have none_ : Change.callOf? f (.reach f') = none := ite_self _
    rw [none_]
    exact callsFrom_insert.trans (List.append_nil _).symm
  | record f' call =>
    show (g.record f' call).callsFrom f = _ ++ (if f' = f then some call else none).toList
    rw [callsFrom_record]
    by_cases own : f = f'
    · rw [if_pos own, if_pos own.symm]
      rfl
    · rw [if_neg own, if_neg (Ne.symm own)]
      exact (List.append_nil _).symm

theorem calls_apply (distinct : g.functions.Nodup) :
    (change.apply g).calls.Perm (g.calls ++ change.call?.toList) := by
  cases change with
  | reach f =>
    show (g.insert f).calls.Perm (g.calls ++ [])
    rw [calls_insert, List.append_nil]
  | record f call => exact calls_record distinct

/-! ### All changes -/

/-- The graph that changes lead to, from nothing. -/
def ofChanges (changes : List Change) : CallGraph := changes.foldl Change.apply {}

theorem ofChanges_concat : ofChanges (changes ++ [change]) = change.apply (ofChanges changes) := by
  rw [ofChanges, List.foldl_append]
  rfl

theorem functions_insert_eraseDups {ids : List EntityId} (same : g.functions = ids.eraseDups) :
    (g.insert f).functions = (ids ++ [f]).eraseDups := by
  rw [List.eraseDups_append]
  cases present : g.contains f with
  | true =>
    have old : f ∈ ids := by rwa [← mem_functions, same, List.mem_eraseDups] at present
    rw [insert_of_contains present, same]
    simp [List.removeAll, old]
  | false =>
    have fresh : f ∉ ids := by
      rw [← List.mem_eraseDups, ← same, mem_functions, present]
      nofun
    rw [functions_insert present, same]
    simp [List.removeAll, fresh, List.eraseDups_cons]

theorem functions_ofChanges :
    (ofChanges changes).functions = (changes.map Change.function).eraseDups := by
  induction changes using List.reverseRecOn with
  | nil => rfl
  | append_singleton before change ih =>
    rw [ofChanges_concat, functions_apply, functions_insert_eraseDups ih, List.map_append]
    rfl

theorem nodup_functions_ofChanges (changes : List Change) :
    (ofChanges changes).functions.Nodup := by
  induction changes using List.reverseRecOn with
  | nil => exact List.nodup_nil
  | append_singleton before change ih =>
    rw [ofChanges_concat, functions_apply]
    exact nodup_functions_insert ih

theorem contains_ofChanges :
    (ofChanges changes).contains f = true ↔ f ∈ changes.map Change.function := by
  rw [← mem_functions, functions_ofChanges, List.mem_eraseDups]

theorem filterMap_concat (recorded : Change → Option Call) :
    (changes ++ [change]).filterMap recorded =
      changes.filterMap recorded ++ (recorded change).toList := by
  rw [List.filterMap_append]
  cases found : recorded change <;> simp [found]

theorem callsFrom_ofChanges :
    (ofChanges changes).callsFrom f = changes.filterMap (Change.callOf? f) := by
  induction changes using List.reverseRecOn with
  | nil => rfl
  | append_singleton before change ih =>
    rw [ofChanges_concat, callsFrom_apply, ih, filterMap_concat]

theorem calls_ofChanges (changes : List Change) :
    (ofChanges changes).calls.Perm (changes.filterMap Change.call?) := by
  induction changes using List.reverseRecOn with
  | nil => exact .nil
  | append_singleton before change ih =>
    rw [ofChanges_concat, filterMap_concat]
    exact (calls_apply (nodup_functions_ofChanges before)).trans (ih.append_right _)

end CallGraph

/-! ### Runs -/

namespace Change

theorem run_ofChanges (events : List Event) (before : List Change) (change : Change) :
    change.run.run { graph := .ofChanges before, events } =
      .ok (change.answer before) { graph := .ofChanges (before ++ [change]), events } := by
  rw [CallGraph.ofChanges_concat]
  cases change with
  | reach f =>
    have fresh : (!(CallGraph.ofChanges before).contains f) = decide (f ∉ before.map function) := by
      rw [Bool.eq_iff_iff, Bool.not_eq_true', decide_eq_true_iff, ← CallGraph.contains_ofChanges,
        Bool.not_eq_true]
    show EStateM.Result.ok (some (!(CallGraph.ofChanges before).contains f)) _ = _
    rw [fresh]
    rfl
  | record f call => rfl

/-- Changes that follow others, made one after the other. -/
theorem mapM_run (events : List Event) (before changes : List Change) : ∃ answers,
    (changes.mapM run).run { graph := .ofChanges before, events } =
      .ok answers { graph := .ofChanges (before ++ changes), events } ∧
    ∀ i : Nat, answers[i]? =
      changes[i]?.map fun change => change.answer (before ++ changes.take i) := by
  induction changes generalizing before with
  | nil =>
    rw [List.append_nil]
    exact ⟨[], rfl, fun i => rfl⟩
  | cons change changes ih =>
    obtain ⟨answers, rest, each⟩ := ih (before ++ [change])
    refine ⟨change.answer before :: answers, ?_, fun i => ?_⟩
    · rw [List.mapM_cons, EStateM.run_bind, run_ofChanges]
      simp only
      rw [EStateM.run_bind, rest, List.append_assoc]
      rfl
    · cases i with
      | zero => simp
      | succ i => simpa [List.append_assoc] using each i

end Change

/-- Whatever is done to an empty graph: a mark is new exactly if no earlier change names its
function; the functions are those that were named, each once and in the order of their first
change; the calls of a function are those that were recorded under it, in order; and the calls of
a method are found function by function. So over all functions, and for a method over those of
its calls, every call is there as often as it was recorded. -/
theorem graph_of_changes (changes : List Change) (events : List Event) :
    ∃ answers g, (changes.mapM Change.run).run { events } = .ok answers { graph := g, events } ∧
      (∀ i : Nat, answers[i]? = changes[i]?.map fun change => change.answer (changes.take i)) ∧
      g.functions.Nodup ∧ g.functions = (changes.map Change.function).eraseDups ∧
      (∀ f, g.callsFrom f = changes.filterMap (Change.callOf? f)) ∧
      (∀ m, g.callersOf m = (g.functions.flatMap g.callsFrom).filter (·.calleeMethod = m)) ∧
      (g.functions.flatMap g.callsFrom).Perm (changes.filterMap Change.call?) ∧
      ∀ m, (g.callersOf m).Perm
        ((changes.filterMap Change.call?).filter (·.calleeMethod = m)) := by
  obtain ⟨answers, made, each⟩ := Change.mapM_run events [] changes
  have distinct := CallGraph.nodup_functions_ofChanges changes
  have calls := CallGraph.calls_eq distinct
  have perm := CallGraph.calls_ofChanges changes
  refine ⟨answers, .ofChanges changes, made, each, distinct, CallGraph.functions_ofChanges,
    fun f => CallGraph.callsFrom_ofChanges, fun m => ?_, calls ▸ perm, fun m => ?_⟩
  · rw [← calls]
    rfl
  · exact perm.filter _

end CxxTrees
