import Mathlib.Data.List.Pairwise
import CxxTrees.Proofs.Calls.Body
import CxxTrees.Proofs.Calls.Endings

/-!
# What walks leave behind

A walk that stops leaves the entry it was filling with the calls read so far, and
so do the walks around it, which stop with it. `Advances` says this of any part of
a run, answered or not: every body begun in it is the first one walked under its
id, and its entry has the calls of the part of it that was read.
-/

namespace CxxTrees.Frontend
variable {fe : Frontend} {options : Options} {scope : CallScope} {f g c : Cursor}
  {facts : CursorFacts} {id own : EntityId} {graph graph' : CallGraph}
  {answered answered' : Bool} {cs read later : List Cursor}

/-! ### Parts of a body -/

/-- `read` is what is read of the cursors at and below `cs` until a walk ends: all of
them if it is answered, and else those at the front. -/
structure ReadsPart (fe : Frontend) (answered : Bool) (cs read : List Cursor) : Prop where
  front : ∀ order, fe.SourceOrder cs order → read <+: order
  whole : answered = true → fe.SourceOrder cs read

theorem readsPart_nil : fe.ReadsPart false cs [] :=
  ⟨fun _ _ => List.nil_prefix, fun answered => by cases answered⟩

theorem readsPart_of_order (order : fe.SourceOrder cs read) : fe.ReadsPart answered cs read := by
  refine ⟨fun other order' => ?_, fun _ => order⟩
  obtain rfl := sourceOrder_unique order order'
  exact List.prefix_rfl

/-- A walk that stops below the first cursor has read that one. -/
theorem readsPart_inside (known : fe.cursor? c = some facts)
    (inside : fe.ReadsPart false facts.children read) :
    fe.ReadsPart false (c :: cs) (c :: read) := by
  refine ⟨fun order found => ?_, fun answered => by cases answered⟩
  cases found with
  | @cons _ facts' _ below after known' children rest =>
    obtain rfl := Option.mem_unique known known'
    obtain ⟨more, same⟩ := inside.front below children
    rw [← same]
    exact ⟨more ++ after, by simp⟩

theorem readsPart_after (known : fe.cursor? c = some facts)
    (children : fe.SourceOrder facts.children read) (rest : fe.ReadsPart answered cs later) :
    fe.ReadsPart answered (c :: cs) (c :: read ++ later) := by
  refine ⟨fun order found => ?_, fun done => .cons known children (rest.whole done)⟩
  cases found with
  | @cons _ facts' _ below after known' children' rest' =>
    obtain rfl := Option.mem_unique known known'
    obtain rfl := sourceOrder_unique children children'
    obtain ⟨more, same⟩ := rest.front after rest'
    rw [← same]
    exact ⟨more, by simp⟩

/-- The graph has the calls of a part of the body of `g`, which is all of it if the walk of
the body was answered. -/
def HasRead (fe : Frontend) (graph : CallGraph) (answered : Bool) (g : Cursor) : Prop :=
  ∃ facts read, fe.cursor? g = some facts ∧ fe.ReadsPart answered facts.children read ∧
    (answered = true → ∃ scope, fe.scopeOf g = .ok scope) ∧
    ∀ scope, fe.scopeOf g = .ok scope →
      graph.callsFrom facts.entity = read.filterMap (fe.callAt scope)

theorem hasRead_weaken (read : fe.HasRead graph true g) : fe.HasRead graph answered g := by
  obtain ⟨facts, read, known, part, seen, calls⟩ := read
  exact ⟨facts, read, known, ⟨part.front, fun _ => part.whole rfl⟩, fun _ => seen rfl, calls⟩

theorem hasRead_of_callsFrom (read : fe.HasRead graph answered g) (entity : fe.HasEntity g id)
    (same : graph'.callsFrom id = graph.callsFrom id) : fe.HasRead graph' answered g := by
  obtain ⟨facts, read, known, part, seen, calls⟩ := read
  obtain rfl := hasEntity_unique entity ⟨facts, known, rfl⟩
  exact ⟨facts, read, known, part, seen, fun scope found => same.trans (calls scope found)⟩

theorem hasBodyCalls_of_hasRead (read : fe.HasRead graph true g) : fe.HasBodyCalls graph g := by
  obtain ⟨facts, read, known, part, seen, calls⟩ := read
  obtain ⟨scope, found⟩ := seen rfl
  exact ⟨facts, scope, read, known, found, ⟨facts, known, part.whole rfl⟩, calls scope found⟩

theorem exists_hasEntity (read : fe.HasRead graph answered g) : ∃ id, fe.HasEntity g id := by
  obtain ⟨facts, _, known, _⟩ := read
  exact ⟨facts.entity, facts, known, rfl⟩

/-! ### Parts of a run -/

/-- `t` continues `s`: `added` goes to the entry that is being filled, and bodies are begun
at `walks`, each under a new id. -/
structure Advances (fe : Frontend) (filling : Option EntityId) (added : List Call)
    (answered : Bool) (walks : List Cursor) (s t : RunState) : Prop where
  walked : t.walks = s.walks ++ walks
  calls : ∀ id, s.graph.contains id = true →
    t.graph.callsFrom id = s.graph.callsFrom id ++ if filling = some id then added else []
  entries : ∀ id, t.graph.contains id = true ↔
    s.graph.contains id = true ∨ ∃ g ∈ walks, fe.HasEntity g id
  fresh : ∀ g ∈ walks, ∀ id, fe.HasEntity g id → s.graph.contains id = false
  once : walks.Pairwise fun g g' => ∀ id, fe.HasEntity g id → ¬ fe.HasEntity g' id
  read : ∀ g ∈ walks, fe.HasRead t.graph answered g

variable {filling : Option EntityId} {added added' : List Call} {walks walks' : List Cursor}
  {s m t : RunState}

theorem advances_of_same (graph : t.graph = s.graph) (walks : t.walks = s.walks) :
    fe.Advances filling [] answered [] s t where
  walked := by rw [walks, List.append_nil]
  calls id _ := by simp [graph]
  entries id := by simp [graph]
  fresh g member := by cases member
  once := .nil
  read g member := by cases member

/-- A part that fills no entry may stand inside of one that does. -/
theorem advances_inside (h : fe.Advances none [] answered walks s t) :
    fe.Advances filling [] answered walks s t :=
  { h with calls := fun id old => by simpa using h.calls id old }

theorem advances_weaken (h : fe.Advances filling added true walks s t) :
    fe.Advances filling added answered walks s t :=
  { h with read := fun g member => hasRead_weaken (h.read g member) }

theorem eq_of_mem_walks (h : fe.Advances filling added answered walks s t) (walked : f ∈ walks)
    (walked' : g ∈ walks) (entity : fe.HasEntity f id) (entity' : fe.HasEntity g id) : f = g := by
  have apart : Std.Symm fun g g' => ∀ id, fe.HasEntity g id → ¬ fe.HasEntity g' id :=
    ⟨fun g g' other id first second => other id second first⟩
  by_contra different
  exact h.once.forall walked walked' different id entity entity'

theorem advances_trans (present : ∀ own, filling = some own → s.graph.contains own = true)
    (first : fe.Advances filling added answered walks s m)
    (second : fe.Advances filling added' answered' walks' m t) :
    fe.Advances filling (added ++ added') (answered && answered') (walks ++ walks') s t := by
  have keeps (id : EntityId) (old : s.graph.contains id = true) : m.graph.contains id = true :=
    (first.entries id).mpr (.inl old)
  refine ⟨?_, fun id old => ?_, fun id => ?_, fun g member id entity => ?_, ?_, fun g member => ?_⟩
  · rw [second.walked, first.walked, List.append_assoc]
  · rw [second.calls id (keeps id old), first.calls id old, List.append_assoc]
    split <;> simp
  · rw [second.entries, first.entries]
    simp only [List.mem_append, or_and_right, exists_or, or_assoc]
  · rcases List.mem_append.mp member with early | late
    · exact first.fresh g early id entity
    · have absent := second.fresh g late id entity
      rw [Bool.eq_false_iff] at absent ⊢
      exact fun old => absent (keeps id old)
  · refine List.pairwise_append.mpr
      ⟨first.once, second.once, fun g early g' late id entity entity' => ?_⟩
    have absent := second.fresh g' late id entity'
    rw [(first.entries id).mpr (.inr ⟨g, early, entity⟩)] at absent
    cases absent
  · rcases List.mem_append.mp member with early | late
    · -- The second part leaves an entry alone that the first has begun.
      have read := first.read g early
      obtain ⟨id, entity⟩ := exists_hasEntity read
      have other : filling ≠ some id := by
        intro same
        have absent := first.fresh g early id entity
        rw [present id same] at absent
        cases absent
      have begun : m.graph.contains id = true := (first.entries id).mpr (.inr ⟨g, early, entity⟩)
      have same : t.graph.callsFrom id = m.graph.callsFrom id := by
        rw [second.calls id begun, if_neg other, List.append_nil]
      have kept := hasRead_of_callsFrom read entity same
      cases answered with
      | false => exact kept
      | true => exact hasRead_weaken kept
    · have read := second.read g late
      cases answered with
      | false =>
        cases answered' with
        | false => exact read
        | true => exact hasRead_weaken read
      | true => exact read

theorem advances_trans_filling (present : s.graph.contains own = true)
    (first : fe.Advances (some own) added answered walks s m)
    (second : fe.Advances (some own) added' answered' walks' m t) :
    fe.Advances (some own) (added ++ added') (answered && answered') (walks ++ walks') s t := by
  refine advances_trans (fun own' same => ?_) first second
  obtain rfl := Option.some.inj same
  exact present

end CxxTrees.Frontend
