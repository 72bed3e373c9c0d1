import Mathlib.Tactic.MkIffOfInductiveProp
import CxxTrees.Proofs.Frontend.Links
import CxxTrees.Snapshot.Basic

/-!
# Links of snapshots

A snapshot stores its links as handles. Two conditions on them can be checked entry by
entry: that every handle lies in its table, and that entries come in such an order that
no descent and no climb gets back to where it began.
-/

namespace CxxTrees

/-- The cursors that are stored in the facts of a cursor. -/
def CursorFacts.links (facts : CursorFacts) : List Cursor :=
  facts.semanticParent.toList ++ facts.referenced.toList ++ facts.specializedTemplate.toList ++
    facts.children

/-- The types that are stored in a record, but for the canonical form. -/
def TypeRecord.parts (r : TypeRecord) : List TypeHandle :=
  r.pointee.toList ++ r.element.toList ++ r.result.toList ++ r.parameters.getD [] ++
    r.ofClass.toList ++ (r.arguments.getD []).filterMap id

theorem CursorFacts.mem_links {facts : CursorFacts} {c : Cursor} (named : facts.Names c) :
    c ∈ facts.links := by
  cases named with
  | parent link => simp [links, link]
  | referenced link => simp [links, link]
  | template link => simp [links, link]
  | child link => simp [links, link]

theorem TypeRecord.mem_parts {r : TypeRecord} {t u : TypeHandle} (part : (r.facts t).HasPart u) :
    u ∈ r.parts := by
  cases part with
  | pointee link => simp [parts, show r.pointee = some u from link]
  | element link => simp [parts, show r.element = some u from link]
  | result link => simp [parts, show r.result = some u from link]
  | parameter i link =>
    obtain ⟨list, known, found⟩ := Option.bind_eq_some_iff.mp link
    simp [parts, known, List.mem_of_getElem? found]
  | ofClass link => simp [parts, show r.ofClass = some u from link]
  | argument i link =>
    have found : r.arguments.bind (·[i]?) = some (some u) := Option.join_eq_some_iff.mp link
    obtain ⟨list, known, found⟩ := Option.bind_eq_some_iff.mp found
    simp [parts, known, List.mem_of_getElem? found]

namespace Snapshot
variable {s : Snapshot} {c d : Cursor} {t u : TypeHandle}

theorem cursor_mem {facts : CursorFacts} (known : s.frontend.cursor? c = some facts) :
    facts ∈ s.cursors.toList :=
  Array.mem_toList_iff.mpr (Array.mem_of_getElem? known)

theorem exists_record {facts : TypeFacts} (known : s.frontend.type? t = some facts) :
    ∃ r, s.types[t.index]? = some r ∧ r.facts t = facts :=
  Option.map_eq_some_iff.mp known

theorem hasCursor_iff : s.frontend.HasCursor c ↔ c.index < s.cursors.size := by
  constructor
  · exact Frontend.index_lt_of_hasCursor
  · intro inside
    exact ⟨_, Array.getElem?_eq_getElem inside⟩

theorem hasType_iff : s.frontend.HasType t ↔ t.index < s.types.size := by
  constructor
  · exact Frontend.index_lt_of_hasType
  · intro inside
    have found : s.types[t.index]? = some s.types[t.index] := Array.getElem?_eq_getElem inside
    exact ⟨s.types[t.index].facts t, Option.map_eq_some_iff.mpr ⟨_, found, rfl⟩⟩

/-! ### Handles in their tables -/

/-- Every handle that is stored lies in its table. -/
@[mk_iff]
structure Closed (s : Snapshot) : Prop where
  links : ∀ facts ∈ s.cursors.toList, ∀ c ∈ facts.links, c.index < s.cursors.size
  typed : ∀ facts ∈ s.cursors.toList, ∀ t ∈ facts.type, t.index < s.types.size
  parts : ∀ r ∈ s.types.toList, ∀ t ∈ r.parts, t.index < s.types.size
  canonical : ∀ r ∈ s.types.toList, ∀ t ∈ r.canonical, t.index < s.types.size
  declaration : ∀ r ∈ s.types.toList, ∀ c ∈ r.declaration, c.index < s.cursors.size

instance : Decidable s.Closed := decidable_of_iff' _ (closed_iff s)

theorem frontend_closed (closed : s.Closed) : s.frontend.Closed := by
  have stored {t : TypeHandle} {r : TypeRecord} (found : s.types[t.index]? = some r) :
      r ∈ s.types.toList := Array.mem_toList_iff.mpr (Array.mem_of_getElem? found)
  constructor
  case named =>
    intro c d facts known named
    exact hasCursor_iff.mpr (closed.links _ (cursor_mem known) d (CursorFacts.mem_links named))
  case typed =>
    intro c t facts known link
    exact hasType_iff.mpr (closed.typed _ (cursor_mem known) t link)
  case part =>
    intro t u facts known part
    obtain ⟨r, found, rfl⟩ := exists_record known
    exact hasType_iff.mpr (closed.parts r (stored found) u (TypeRecord.mem_parts part))
  case canonical =>
    intro t facts known
    obtain ⟨r, found, rfl⟩ := exists_record known
    show s.frontend.HasType (r.canonical.getD t)
    cases link : r.canonical with
    | none => exact ⟨_, known⟩
    | some u => exact hasType_iff.mpr (closed.canonical r (stored found) u link)
  case declaration =>
    intro t c facts known link
    obtain ⟨r, found, rfl⟩ := exists_record known
    exact hasCursor_iff.mpr (closed.declaration r (stored found) c link)

/-! ### Entries in order -/

/-- Children come after a cursor and its semantic parent before it; the parts of a type come
before it, and so does its canonical form, if it is another type. -/
@[mk_iff]
structure Ordered (s : Snapshot) : Prop where
  children : ∀ i (h : i < s.cursors.size), ∀ c ∈ s.cursors[i].children, i < c.index
  parents : ∀ i (h : i < s.cursors.size), ∀ c ∈ s.cursors[i].semanticParent, c.index < i
  parts : ∀ i (h : i < s.types.size), ∀ t ∈ s.types[i].parts, t.index < i
  canonical : ∀ i (h : i < s.types.size), ∀ t ∈ s.types[i].canonical, t.index ≤ i

instance : Decidable s.Ordered := decidable_of_iff' _ (ordered_iff s)

theorem inner_index_lt (ordered : s.Ordered) (link : s.frontend.Inner t u) : u.index < t.index := by
  obtain ⟨facts, known, link⟩ := link
  obtain ⟨r, found, rfl⟩ := exists_record known
  obtain ⟨inside, rfl⟩ := Array.getElem?_eq_some_iff.mp found
  rcases link with part | ⟨canonical, other⟩
  · exact ordered.parts t.index inside u (TypeRecord.mem_parts part)
  · have canonical : s.types[t.index].canonical.getD t = u := canonical
    cases link : s.types[t.index].canonical with
    | none =>
      rw [link] at canonical
      exact absurd canonical.symm other
    | some u' =>
      rw [link] at canonical
      obtain rfl : u' = u := canonical
      have before := ordered.canonical t.index inside u' link
      have apart : u'.index ≠ t.index := fun same => other (Handle.ext_index same)
      omega

theorem acyclic_of_ordered (ordered : s.Ordered) : s.frontend.Acyclic := by
  constructor
  case types => exact ⟨Handle.index, fun t u link => inner_index_lt ordered link⟩
  case children =>
    apply no_circle Handle.index
    intro c d link
    obtain ⟨facts, known, member⟩ := link
    obtain ⟨inside, rfl⟩ := Array.getElem?_eq_some_iff.mp known
    exact ordered.children c.index inside d member
  case parents =>
    intro c circle
    refine no_circle Handle.index (fun d c link => ?_) c (Relation.transGen_swap.mpr circle)
    obtain ⟨facts, known, link⟩ := link
    obtain ⟨inside, rfl⟩ := Array.getElem?_eq_some_iff.mp known
    exact ordered.parents c.index inside d link

end Snapshot
end CxxTrees
