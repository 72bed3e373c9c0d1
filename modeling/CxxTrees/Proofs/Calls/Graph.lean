import Mathlib.Data.List.Nodup
import CxxTrees.Calls.Graph

/-!
# Entries of a call graph

How marking and recording change what a graph contains and what it has of each
function.
-/

namespace CxxTrees.CallGraph
variable {g : CallGraph} {f id : EntityId} {call : Call}

theorem contains_iff : g.contains id = true ↔ ∃ e ∈ g.entries, e.1 = id := by
  simp [contains]

theorem lookup_of_not_contains (h : g.contains id = false) : g.entries.lookup id = none := by
  rw [List.lookup_eq_none_iff]
  intro e member
  have absent : ∀ e ∈ g.entries, e.1 ≠ id := by simpa [contains] using h
  simpa using Ne.symm (absent e member)

theorem callsFrom_of_not_contains (h : g.contains id = false) : g.callsFrom id = [] := by
  simp [callsFrom, lookup_of_not_contains h]

theorem contains_empty : (empty : CallGraph).contains id = false := rfl

/-! ### Marking -/

theorem insert_of_contains (h : g.contains f = true) : g.insert f = g := by
  simp [insert, h]

theorem contains_insert : (g.insert f).contains id = true ↔ g.contains id = true ∨ id = f := by
  unfold insert
  split
  · rename_i present
    constructor
    · exact .inl
    · intro h
      rcases h with h | rfl
      · exact h
      · exact present
  · rw [contains_iff, contains_iff]
    constructor
    · intro h
      obtain ⟨e, member, rfl⟩ := h
      rcases List.mem_append.mp member with old | fresh
      · exact .inl ⟨e, old, rfl⟩
      · exact .inr (congrArg Prod.fst (List.mem_singleton.mp fresh))
    · intro h
      rcases h with ⟨e, old, rfl⟩ | rfl
      · exact ⟨e, List.mem_append_left _ old, rfl⟩
      · exact ⟨(id, []), by simp, rfl⟩

theorem callsFrom_insert : (g.insert f).callsFrom id = g.callsFrom id := by
  unfold insert
  split
  · rfl
  · rename_i absent
    by_cases same : id = f
    · subst same
      have absent : g.contains id = false := by simpa using absent
      simp [callsFrom, List.lookup_append, lookup_of_not_contains absent]
    · have other : (id == f) = false := by simpa using same
      simp [callsFrom, List.lookup_append, List.lookup_cons, other]

/-! ### Recording -/

theorem contains_record :
    (g.record f call).contains id = true ↔ g.contains id = true ∨ id = f := by
  rw [← contains_insert, contains_iff, contains_iff]
  constructor
  · intro h
    obtain ⟨_, member, rfl⟩ := h
    obtain ⟨e, before, rfl⟩ := List.mem_map.mp member
    refine ⟨e, before, ?_⟩
    split <;> rfl
  · intro h
    obtain ⟨e, member, rfl⟩ := h
    refine ⟨_, List.mem_map_of_mem member, ?_⟩
    split <;> rfl

theorem lookup_map_append (entries : List (EntityId × List Call)) :
    (entries.map fun e => if e.1 = f then (e.1, e.2 ++ [call]) else e).lookup id =
      (entries.lookup id).map fun calls => if id = f then calls ++ [call] else calls := by
  induction entries with
  | nil => rfl
  | cons e rest ih =>
    obtain ⟨key, calls⟩ := e
    rw [List.map_cons]
    by_cases hit : id = key
    · subst hit
      by_cases same : id = f
      · simp [same]
      · simp [same]
    · have miss : (id == key) = false := by simpa using hit
      split <;> simp [List.lookup_cons, miss, ih]

theorem callsFrom_record :
    (g.record f call).callsFrom id =
      if id = f then g.callsFrom id ++ [call] else g.callsFrom id := by
  have before : (g.insert f).callsFrom id = g.callsFrom id := callsFrom_insert
  unfold callsFrom at before ⊢
  rw [← before]
  unfold record
  rw [lookup_map_append]
  cases found : (g.insert f).entries.lookup id with
  | some calls => rfl
  | none =>
    by_cases same : id = f
    · have present : (g.insert f).contains id = true := contains_insert.mpr (.inr same)
      obtain ⟨e, member, rfl⟩ := contains_iff.mp present
      have absent := List.lookup_eq_none_iff.mp found e member
      simp at absent
    · simp [same]

/-! ### Functions -/

theorem mem_functions : f ∈ g.functions ↔ g.contains f = true := by
  rw [contains_iff]
  exact List.mem_map

theorem functions_insert (fresh : g.contains f = false) :
    (g.insert f).functions = g.functions ++ [f] := by
  simp [insert, fresh, functions]

/-- A call is recorded as if its function had been marked before. -/
theorem functions_record : (g.record f call).functions = (g.insert f).functions := by
  have keys : (Prod.fst ∘ fun e : EntityId × List Call =>
      if e.1 = f then (e.1, e.2 ++ [call]) else e) = Prod.fst := by
    funext e
    simp only [Function.comp_apply]
    split <;> rfl
  rw [record, functions, List.map_map, keys]
  rfl

theorem nodup_functions_insert (distinct : g.functions.Nodup) : (g.insert f).functions.Nodup := by
  cases present : g.contains f with
  | true => rwa [insert_of_contains present]
  | false =>
    have fresh : f ∉ g.functions := by
      rw [mem_functions, present]
      nofun
    rw [functions_insert present, ← List.concat_eq_append]
    exact List.Nodup.concat fresh distinct

/-! ### All calls -/

/-- The calls of all functions. -/
def calls (g : CallGraph) : List Call := g.entries.flatMap Prod.snd

theorem calls_insert : (g.insert f).calls = g.calls := by
  unfold insert
  split
  · rfl
  · simp [calls]

theorem perm_append_call {entries : List (EntityId × List Call)}
    (distinct : (entries.map Prod.fst).Nodup) (present : f ∈ entries.map Prod.fst) :
    ((entries.map fun e => if e.1 = f then (e.1, e.2 ++ [call]) else e).flatMap Prod.snd).Perm
      (entries.flatMap Prod.snd ++ [call]) := by
  induction entries with
  | nil => cases present
  | cons e rest ih =>
    obtain ⟨fresh, distinct⟩ := List.nodup_cons.mp distinct
    by_cases own : e.1 = f
    · have others : (rest.map fun e => if e.1 = f then (e.1, e.2 ++ [call]) else e) = rest := by
        rw [List.map_congr_left (g := id), List.map_id]
        intro other member
        have apart : other.1 ≠ f := by
          intro same
          rw [own, ← same] at fresh
          exact fresh (List.mem_map_of_mem member)
        rw [if_neg apart]
        rfl
      simp only [List.map_cons, if_pos own, others, List.flatMap_cons, List.append_assoc]
      exact List.perm_append_comm.append_left e.2
    · have later : f ∈ rest.map Prod.fst := (List.mem_cons.mp present).resolve_left (Ne.symm own)
      simp only [List.map_cons, if_neg own, List.flatMap_cons, List.append_assoc]
      exact (ih distinct later).append_left e.2

theorem calls_record (distinct : g.functions.Nodup) :
    (g.record f call).calls.Perm (g.calls ++ [call]) := by
  have present : f ∈ (g.insert f).functions := mem_functions.mpr (contains_insert.mpr (.inr rfl))
  rw [← calls_insert (g := g) (f := f)]
  exact perm_append_call (nodup_functions_insert distinct) present

theorem callsFrom_of_mem (distinct : g.functions.Nodup) {e : EntityId × List Call}
    (member : e ∈ g.entries) : g.callsFrom e.1 = e.2 := by
  rcases g with ⟨entries⟩
  unfold callsFrom
  simp only
  induction entries with
  | nil => cases member
  | cons first rest ih =>
    obtain ⟨fresh, distinct⟩ := List.nodup_cons.mp distinct
    rw [List.lookup_cons]
    rcases List.mem_cons.mp member with rfl | later
    · rw [beq_self_eq_true]
      rfl
    · have apart : (e.1 == first.1) = false := by
        apply beq_false_of_ne
        intro same
        exact fresh (same ▸ List.mem_map_of_mem later)
      rw [apart]
      exact ih distinct later

/-- All calls are those of the functions, one function after the other. -/
theorem calls_eq (distinct : g.functions.Nodup) : g.calls = g.functions.flatMap g.callsFrom := by
  rw [functions, List.flatMap_map, calls, List.flatMap_def, List.flatMap_def]
  congr 1
  apply List.map_congr_left
  intro e member
  exact (callsFrom_of_mem distinct member).symm

end CxxTrees.CallGraph
