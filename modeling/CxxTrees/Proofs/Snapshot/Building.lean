import CxxTrees.Proofs.Calls.Body
import CxxTrees.Proofs.Frontend.Descents
import CxxTrees.Proofs.Snapshot.Links

/-!
# Snapshots, entry by entry

What any run of the operations that build a snapshot leaves behind: handles that count up
from 1, children that are listed where their own parent says, and ids that tell all
cursors apart.
-/

namespace CxxTrees

/-! ### Handles given out -/

namespace Handle
variable {table : Table}

theorem index_afterCount_le (count : Nat) : (afterCount count : Handle table).index ≤ count := by
  simp only [index, afterCount, UInt32.size]
  omega

theorem number_lt_of_index_lt {a b : Handle table} (h : a.index < b.index) :
    a.number < b.number := by
  unfold index at h
  omega

/-- The handles of the first `count` entries. -/
def first (table : Table) (count : Nat) : List (Handle table) := (List.range count).map afterCount

theorem first_succ (count : Nat) :
    first table (count + 1) = first table count ++ [afterCount count] := by
  simp [first, List.range_succ]

theorem index_lt_of_mem_first {count : Nat} {h : Handle table} (member : h ∈ first table count) :
    h.index < count := by
  obtain ⟨i, inside, rfl⟩ := List.mem_map.mp member
  exact (index_afterCount_le i).trans_lt (List.mem_range.mp inside)

theorem mem_first {count : Nat} {h : Handle table} : h ∈ first table count ↔ h.index < count := by
  refine ⟨index_lt_of_mem_first, fun inside => ?_⟩
  exact List.mem_map.mpr ⟨h.index, List.mem_range.mpr inside, afterCount_index h⟩

theorem map_number_first {count : Nat} (fits : count < UInt32.size) :
    (first table count).map (·.number) = List.range' 1 count := by
  induction count with
  | zero => rfl
  | succ count ih =>
    rw [first_succ, List.map_append, ih (by omega), List.range'_concat]
    simp [number_afterCount fits, Nat.add_comm]

theorem ascending_first {count : Nat} (fits : count < UInt32.size) :
    (first table count).Pairwise (·.number < ·.number) := by
  have numbers : ((first table count).map (·.number)).Pairwise (· < ·) := by
    rw [map_number_first fits]
    exact List.pairwise_lt_range'
  exact List.pairwise_map.mp numbers

end Handle

/-! ### Operations -/

/-- What ties a cursor to the others of its table. -/
structure Branch where
  entity : EntityId
  parent : Option Cursor
  children : List Cursor

def CursorFacts.branch (facts : CursorFacts) : Branch where
  entity := facts.entity
  parent := facts.semanticParent
  children := facts.children

namespace Snapshot

def branch? (s : Snapshot) (c : Cursor) : Option Branch := s.cursors[c.index]?.map (·.branch)

def parent? (s : Snapshot) (c : Cursor) : Option Cursor := (s.branch? c).bind (·.parent)

variable {s s' : Snapshot} {c e : Cursor}

theorem branch?_push {facts : CursorFacts} (fits : s.cursors.size + 1 < UInt32.size) :
    ({ s with cursors := s.cursors.push facts } : Snapshot).branch? e =
      if e = .afterCount s.cursors.size then some facts.branch else s.branch? e := by
  have place : e = .afterCount s.cursors.size ↔ e.index = s.cursors.size := by
    constructor
    · rintro rfl
      exact Handle.index_afterCount fits
    · intro last
      rw [← last, Handle.afterCount_index]
  simp only [branch?, Array.getElem?_push, place]
  split <;> rfl

theorem parent?_of_branch? {branch : Branch} (known : s.branch? c = some branch) :
    s.parent? c = branch.parent := by
  rw [parent?, known]
  rfl

theorem updateCursor_eq_some {f : CursorFacts → CursorFacts}
    (updated : s.updateCursor c f = some s') :
    s' = { s with cursors := s.cursors.modify c.index f } := by
  obtain ⟨_, updated⟩ := Option.ite_none_right_eq_some.mp updated
  exact (Option.some.inj updated).symm

theorem branch?_updateCursor {f : CursorFacts → CursorFacts} (g : Branch → Branch)
    (changes : ∀ facts, (f facts).branch = g facts.branch)
    (updated : s.updateCursor c f = some s') :
    s'.branch? e = if c = e then (s.branch? e).map g else s.branch? e := by
  have place : c.index = e.index ↔ c = e := ⟨Handle.ext_index, congrArg _⟩
  cases updateCursor_eq_some updated
  simp only [branch?, Array.getElem?_modify, place]
  split
  · simp only [Option.map_map, Function.comp_def, changes]
  · rfl

theorem exists_addCursor (kind : CursorKind) (spelling : String) {under : Option Cursor}
    (inside : ∀ parent ∈ under, parent.index < s.cursors.size) :
    ∃ added, s.addCursor kind spelling under = some added := by
  cases under with
  | none => exact ⟨_, rfl⟩
  | some parent =>
    have inside (facts : CursorFacts) : parent.index < (s.cursors.push facts).size := by
      rw [Array.size_push]
      exact Nat.lt_succ_of_lt (inside parent rfl)
    simp only [addCursor, updateCursor, if_pos (inside _)]
    exact ⟨_, rfl⟩

/-- A new cursor has no children, and no cursor but its parent has it as a child. -/
theorem branch?_addCursor {kind : CursorKind} {spelling : String} {under : Option Cursor}
    (done : s.addCursor kind spelling under = some (s', c))
    (fits : s.cursors.size + 1 < UInt32.size) (apart : ∀ parent ∈ under, parent ≠ c) :
    s'.branch? e =
      if e = c then some ⟨cursorId spelling c, under, []⟩
      else (s.branch? e).map fun branch =>
        { branch with children := branch.children ++ if under = some e then [c] else [] } := by
  cases under with
  | none =>
    cases done
    simp only [branch?_push fits, reduceCtorEq, if_false, List.append_nil, Option.map_id']
    rfl
  | some parent =>
    obtain ⟨s₁, updated, same⟩ := Option.map_eq_some_iff.mp done
    cases same
    have apart := apart parent rfl
    rw [branch?_updateCursor (fun branch => { branch with children := branch.children ++ [_] })
      (fun _ => rfl) updated, branch?_push fits]
    by_cases new : e = .afterCount s.cursors.size
    · simp only [new, apart, if_true, if_false]
      rfl
    · by_cases link : parent = e <;> simp [new, link]

theorem branch?_addCursor_cases {kind : CursorKind} {spelling : String} {under : Option Cursor}
    {branch : Branch} (done : s.addCursor kind spelling under = some (s', c))
    (fits : s.cursors.size + 1 < UInt32.size) (apart : ∀ parent ∈ under, parent ≠ c)
    (known : s'.branch? e = some branch) :
    e = c ∧ branch = ⟨cursorId spelling c, under, []⟩ ∨
    ∃ old, s.branch? e = some old ∧
      branch = { old with children := old.children ++ if under = some e then [c] else [] } := by
  rw [branch?_addCursor done fits apart] at known
  split at known
  · rename_i new
    exact .inl ⟨new, (Option.some.inj known).symm⟩
  · obtain ⟨old, found, same⟩ := Option.map_eq_some_iff.mp known
    exact .inr ⟨old, found, same.symm⟩

theorem parent?_addCursor {kind : CursorKind} {spelling : String} {under : Option Cursor}
    (done : s.addCursor kind spelling under = some (s', c))
    (fits : s.cursors.size + 1 < UInt32.size) (apart : ∀ parent ∈ under, parent ≠ c) :
    s'.parent? e = if e = c then under else s.parent? e := by
  simp only [parent?, branch?_addCursor done fits apart]
  split
  · rfl
  · rw [Option.bind_map]
    rfl

/-- One of the operations that a snapshot is built by. -/
inductive Operation where
  | addCursor (kind : CursorKind) (spelling : String) (parent : Option Cursor)
  | addType (kind : TypeKind) (spelling : String)
  | addPointer (pointee : TypeHandle) (spelling : String)
  | addReference (referee : TypeHandle) (isRvalue : Bool) (spelling : String)
  | addArray (kind : TypeKind) (element : TypeHandle) (size : Option UInt64) (spelling : String)
  | addFunction (result : TypeHandle) (parameters : List TypeHandle) (isVariadic : Bool)
      (spelling : String)
  | setCursorType (c : Cursor) (type : TypeHandle)
  | setReferenced (c referenced : Cursor)
  | setSpecializedTemplate (c template : Cursor)
  | setTokens (c : Cursor) (tokens : List String)
  | setCanonical (t canonical : TypeHandle)
  | setDeclaration (t : TypeHandle) (declaration : Cursor)
  | setArguments (t : TypeHandle) (arguments : List (Option TypeHandle))

namespace Operation

/-- The cursor under which an operation puts a new one. -/
def parent? : Operation → Option Cursor
  | addCursor _ _ parent => parent
  | _ => none

/-- The cursor that is in the table already and whose facts change. -/
def cursor? : Operation → Option Cursor
  | addCursor _ _ parent => parent
  | setCursorType c _ | setReferenced c _ | setSpecializedTemplate c _ | setTokens c _ => some c
  | _ => none

/-- The type that is in the table already and whose record changes. -/
def type? : Operation → Option TypeHandle
  | setCanonical t _ | setDeclaration t _ | setArguments t _ => some t
  | _ => none

end Operation

/-- A snapshot that is being built, with the handles that were given out for its entries. -/
structure Draft where
  snapshot : Snapshot := empty
  cursors : List Cursor := []
  types : List TypeHandle := []

namespace Draft

def withCursor (d : Draft) (added : Snapshot × Cursor) : Draft where
  snapshot := added.1
  cursors := d.cursors ++ [added.2]
  types := d.types

def withType (d : Draft) (added : Snapshot × TypeHandle) : Draft where
  snapshot := added.1
  cursors := d.cursors
  types := d.types ++ [added.2]

/-- The answer is missing where the operation looks up a handle that is in no table. -/
def perform (d : Draft) : Operation → Option Draft
  | .addCursor kind spelling parent =>
    (d.snapshot.addCursor kind spelling parent).map d.withCursor
  | .addType kind spelling => d.withType (d.snapshot.addType kind spelling)
  | .addPointer pointee spelling => d.withType (d.snapshot.addPointer pointee spelling)
  | .addReference referee isRvalue spelling =>
    d.withType (d.snapshot.addReference referee isRvalue spelling)
  | .addArray kind element size spelling =>
    d.withType (d.snapshot.addArray kind element size spelling)
  | .addFunction result parameters isVariadic spelling =>
    d.withType (d.snapshot.addFunction result parameters isVariadic spelling)
  | .setCursorType c type => (d.snapshot.setCursorType c type).map ({ d with snapshot := · })
  | .setReferenced c other => (d.snapshot.setReferenced c other).map ({ d with snapshot := · })
  | .setSpecializedTemplate c template =>
    (d.snapshot.setSpecializedTemplate c template).map ({ d with snapshot := · })
  | .setTokens c tokens => (d.snapshot.setTokens c tokens).map ({ d with snapshot := · })
  | .setCanonical t canonical =>
    (d.snapshot.setCanonical t canonical).map ({ d with snapshot := · })
  | .setDeclaration t declaration =>
    (d.snapshot.setDeclaration t declaration).map ({ d with snapshot := · })
  | .setArguments t arguments =>
    (d.snapshot.setArguments t arguments).map ({ d with snapshot := · })

/-- Where operations lead that pass as parents only cursors that were given out before. -/
inductive Leads : Draft → List Operation → Draft → Prop where
  | done {d : Draft} : Leads d [] d
  | step {d next last : Draft} {op : Operation} {ops : List Operation}
      (known : ∀ parent ∈ op.parent?, parent ∈ d.cursors) (performed : d.perform op = some next)
      (rest : Leads next ops last) : Leads d (op :: ops) last

/-! ### What every operation keeps -/

/-- Children are listed in the order of their handles and where their parents say, parents
come first, and ids are made from handles. -/
structure Grown (d : Draft) : Prop where
  children : ∀ {p branch}, d.snapshot.branch? p = some branch →
    branch.children = d.cursors.filter (d.snapshot.parent? · = some p)
  parents : ∀ {c branch p}, d.snapshot.branch? c = some branch → branch.parent = some p →
    p.index < c.index
  entities : ∀ {c branch}, d.snapshot.branch? c = some branch →
    ∃ spelling, branch.entity = cursorId spelling c

/-- The last handle of a table is given out again and again, hence the bound. -/
structure Sound (d : Draft) : Prop where
  cursors : d.cursors = Handle.first .cursors d.snapshot.cursors.size
  types : d.types = Handle.first .types d.snapshot.types.size
  grown : d.snapshot.cursors.size < UInt32.size → d.Grown

variable {d next : Draft} {t : TypeHandle}

theorem Sound.mem_cursors (sound : d.Sound) :
    c ∈ d.cursors ↔ c.index < d.snapshot.cursors.size := by
  rw [sound.cursors]
  exact Handle.mem_first

theorem Sound.mem_types (sound : d.Sound) : t ∈ d.types ↔ t.index < d.snapshot.types.size := by
  rw [sound.types]
  exact Handle.mem_first

theorem sound_blank : ({} : Draft).Sound where
  cursors := rfl
  types := rfl
  grown _ := ⟨nofun, nofun, nofun⟩

theorem Sound.of_same (sound : d.Sound) (branches : next.snapshot.branch? = d.snapshot.branch?)
    (count : next.snapshot.cursors.size = d.snapshot.cursors.size)
    (cursors : next.cursors = d.cursors)
    (types : next.types = Handle.first .types next.snapshot.types.size) : next.Sound := by
  have parents : next.snapshot.parent? = d.snapshot.parent? := by
    funext c
    simp only [parent?, branches]
  refine ⟨by rw [cursors, count, sound.cursors], types, fun fits => ?_⟩
  have grown := sound.grown (count ▸ fits)
  constructor
  case children =>
    intro p branch known
    rw [cursors, parents]
    exact grown.children (branches ▸ known)
  case parents =>
    intro c branch p known link
    exact grown.parents (branches ▸ known) link
  case entities =>
    intro c branch known
    exact grown.entities (branches ▸ known)

theorem Sound.withType (sound : d.Sound) (r : TypeRecord) :
    (d.withType (d.snapshot.addRecord r)).Sound := by
  refine sound.of_same rfl rfl rfl ?_
  show d.types ++ [.afterCount d.snapshot.types.size] =
    Handle.first .types (d.snapshot.types.push r).size
  rw [Array.size_push, Handle.first_succ, sound.types]

theorem Sound.updateType (sound : d.Sound) {f : TypeRecord → TypeRecord} {s : Snapshot}
    (updated : d.snapshot.updateType t f = some s) : ({ d with snapshot := s } : Draft).Sound := by
  obtain ⟨_, updated⟩ := Option.ite_none_right_eq_some.mp updated
  cases updated
  refine sound.of_same rfl rfl rfl ?_
  show d.types = Handle.first .types (d.snapshot.types.modify t.index f).size
  rw [Array.size_modify, sound.types]

theorem Sound.updateCursor (sound : d.Sound) {f : CursorFacts → CursorFacts}
    (updated : d.snapshot.updateCursor c f = some s)
    (keeps : ∀ facts, (f facts).branch = facts.branch) :
    ({ d with snapshot := s } : Draft).Sound := by
  have branches : s.branch? = d.snapshot.branch? := by
    funext e
    rw [branch?_updateCursor id keeps updated, Option.map_id_apply, ite_self]
  cases updateCursor_eq_some updated
  exact sound.of_same branches Array.size_modify rfl sound.types

theorem addCursor_counts {kind : CursorKind} {spelling : String} {under : Option Cursor}
    (done : s.addCursor kind spelling under = some (s', c)) :
    c = .afterCount s.cursors.size ∧ s'.cursors.size = s.cursors.size + 1 ∧
      s'.types = s.types := by
  cases under with
  | none =>
    cases done
    exact ⟨rfl, Array.size_push _, rfl⟩
  | some parent =>
    obtain ⟨s₁, updated, same⟩ := Option.map_eq_some_iff.mp done
    cases same
    cases updateCursor_eq_some updated
    exact ⟨rfl, Array.size_modify.trans (Array.size_push _), rfl⟩

/-- Parents come first, so a cursor behind all others is the parent of none. -/
theorem Grown.childless (grown : d.Grown) (earlier : ∀ e ∈ d.cursors, e.index < c.index) :
    d.cursors.filter (d.snapshot.parent? · = some c) = [] := by
  apply List.filter_eq_nil_iff.mpr
  intro e member link
  obtain ⟨branch, known, link⟩ := Option.bind_eq_some_iff.mp (of_decide_eq_true link)
  exact (earlier e member).asymm (grown.parents known link)

theorem Grown.addCursor (grown : d.Grown) {kind : CursorKind} {spelling : String}
    {under : Option Cursor} (earlier : ∀ e ∈ d.cursors, e.index < c.index)
    (given : ∀ parent ∈ under, parent ∈ d.cursors)
    (done : d.snapshot.addCursor kind spelling under = some (s, c))
    (fits : d.snapshot.cursors.size + 1 < UInt32.size) : (d.withCursor (s, c)).Grown := by
  have fresh : ∀ e ∈ d.cursors, e ≠ c := fun e member same => (earlier e member).ne (same ▸ rfl)
  have apart : ∀ parent ∈ under, parent ≠ c := fun parent link => fresh parent (given parent link)
  have climb {e : Cursor} := parent?_addCursor (e := e) done fits apart
  have listed (p : Cursor) : (d.cursors ++ [c]).filter (s.parent? · = some p) =
      d.cursors.filter (d.snapshot.parent? · = some p) ++ if under = some p then [c] else [] := by
    have same : d.cursors.filter (s.parent? · = some p) =
        d.cursors.filter (d.snapshot.parent? · = some p) := by
      apply List.filter_congr
      intro e member
      rw [climb, if_neg (fresh e member)]
    rw [List.filter_append, same, List.filter_singleton, climb, if_pos rfl]
    simp
  constructor
  case children =>
    intro p branch known
    show branch.children = (d.cursors ++ [c]).filter (s.parent? · = some p)
    rw [listed]
    rcases branch?_addCursor_cases done fits apart known with ⟨rfl, rfl⟩ | ⟨old, found, rfl⟩
    · have orphan : under ≠ some p := fun link => apart p link rfl
      rw [grown.childless earlier, if_neg orphan]
      rfl
    · rw [grown.children found]
  case parents =>
    intro e branch p known link
    rcases branch?_addCursor_cases done fits apart known with ⟨rfl, rfl⟩ | ⟨old, found, rfl⟩
    · exact earlier p (given p link)
    · exact grown.parents found link
  case entities =>
    intro e branch known
    rcases branch?_addCursor_cases done fits apart known with ⟨rfl, rfl⟩ | ⟨old, found, rfl⟩
    · exact ⟨spelling, rfl⟩
    · obtain ⟨spelling', made⟩ := grown.entities found
      exact ⟨spelling', made⟩

theorem Sound.addCursor (sound : d.Sound) {kind : CursorKind} {spelling : String}
    {under : Option Cursor} (given : ∀ parent ∈ under, parent ∈ d.cursors)
    (done : d.snapshot.addCursor kind spelling under = some (s, c)) :
    (d.withCursor (s, c)).Sound := by
  obtain ⟨new, count, types⟩ := addCursor_counts done
  constructor
  case cursors =>
    show d.cursors ++ [c] = Handle.first .cursors s.cursors.size
    rw [count, Handle.first_succ, sound.cursors, new]
  case types =>
    show d.types = Handle.first .types s.types.size
    rw [types, sound.types]
  case grown =>
    intro fits
    have fits : d.snapshot.cursors.size + 1 < UInt32.size := count ▸ fits
    have last : c.index = d.snapshot.cursors.size := new ▸ Handle.index_afterCount fits
    refine (sound.grown (by omega)).addCursor (fun e member => ?_) given done fits
    exact last ▸ sound.mem_cursors.mp member

theorem Sound.perform (sound : d.Sound) {op : Operation}
    (given : ∀ parent ∈ op.parent?, parent ∈ d.cursors) (performed : d.perform op = some next) :
    next.Sound := by
  cases op with
  | addCursor kind spelling under =>
    obtain ⟨⟨s, c⟩, done, rfl⟩ := Option.map_eq_some_iff.mp performed
    exact sound.addCursor given done
  | addType | addPointer | addReference | addArray | addFunction =>
    cases performed
    exact sound.withType _
  | setCursorType | setReferenced | setSpecializedTemplate | setTokens =>
    obtain ⟨s, updated, rfl⟩ := Option.map_eq_some_iff.mp performed
    exact sound.updateCursor updated fun _ => rfl
  | setCanonical | setDeclaration | setArguments =>
    obtain ⟨s, updated, rfl⟩ := Option.map_eq_some_iff.mp performed
    exact sound.updateType updated

theorem Leads.sound {ops : List Operation} (built : Leads d ops next) (sound : d.Sound) :
    next.Sound := by
  induction built with
  | done => exact sound
  | step known performed _ ih => exact ih (sound.perform known performed)

/-- An operation on entries whose handles were given out has an answer. -/
theorem Sound.exists_perform (sound : d.Sound) {op : Operation}
    (cursors : ∀ c ∈ op.cursor?, c ∈ d.cursors) (types : ∀ t ∈ op.type?, t ∈ d.types) :
    ∃ next, d.perform op = some next := by
  have onCursor {c : Cursor} (given : c ∈ d.cursors) (f : CursorFacts → CursorFacts) :
      ∃ s, d.snapshot.updateCursor c f = some s := ⟨_, if_pos (sound.mem_cursors.mp given)⟩
  have onType {t : TypeHandle} (given : t ∈ d.types) (f : TypeRecord → TypeRecord) :
      ∃ s, d.snapshot.updateType t f = some s := ⟨_, if_pos (sound.mem_types.mp given)⟩
  cases op with
  | addCursor kind spelling under =>
    have inside : ∀ parent ∈ under, parent.index < d.snapshot.cursors.size :=
      fun parent link => sound.mem_cursors.mp (cursors parent link)
    obtain ⟨added, done⟩ := exists_addCursor kind spelling inside
    exact ⟨_, Option.map_eq_some_iff.mpr ⟨added, done, rfl⟩⟩
  | addType | addPointer | addReference | addArray | addFunction => exact ⟨_, rfl⟩
  | setCursorType | setReferenced | setSpecializedTemplate | setTokens =>
    obtain ⟨s, updated⟩ := onCursor (cursors _ rfl) _
    exact ⟨_, Option.map_eq_some_iff.mpr ⟨s, updated, rfl⟩⟩
  | setCanonical | setDeclaration | setArguments =>
    obtain ⟨s, updated⟩ := onType (types _ rfl) _
    exact ⟨_, Option.map_eq_some_iff.mpr ⟨s, updated, rfl⟩⟩

end Draft

/-! ### Ids -/

/-- No digit is a number sign, so an id has its number behind the last one. -/
theorem digits_of_cursorId (spelling : String) (c : Cursor) :
    (cursorId spelling c).text.toList.reverse.takeWhile (· != '#') =
      (Nat.toDigits 10 c.number).reverse := by
  have plain : ∀ x ∈ (Nat.toDigits 10 c.number).reverse, (x != '#') = true := by
    intro x member
    have digit : x.isDigit = true :=
      Nat.isDigit_of_mem_toDigits (by decide) (by decide) (List.mem_reverse.mp member)
    rw [bne_iff_ne]
    rintro rfl
    cases digit
  simp only [cursorId, String.toList_append, List.reverse_append, Nat.toString_eq_ofList_toDigits,
    String.toList_ofList]
  rw [List.takeWhile_append_of_pos plain]
  simp

theorem cursor_of_cursorId {spelling spelling' : String} {c c' : Cursor}
    (same : cursorId spelling c = cursorId spelling' c') : c = c' := by
  have digits : (Nat.toDigits 10 c.number).reverse = (Nat.toDigits 10 c'.number).reverse := by
    rw [← digits_of_cursorId spelling, same, digits_of_cursorId]
  apply Handle.ext_number
  calc
    c.number = Nat.ofDigitChars 10 (Nat.toDigits 10 c.number) 0 :=
      Nat.ofDigitChars_ten_toDigits.symm
    _ = Nat.ofDigitChars 10 (Nat.toDigits 10 c'.number) 0 := by rw [List.reverse_injective digits]
    _ = c'.number := Nat.ofDigitChars_ten_toDigits

end Snapshot

/-! ### Forests -/

namespace Frontend
variable {fe : Frontend} {c : Cursor}

/-- Children and parents agree, and both are in the order of their handles. -/
structure IsForest (fe : Frontend) : Prop where
  children : ∀ {p c above facts}, fe.cursor? p = some above → fe.cursor? c = some facts →
    above.children.count c = if facts.semanticParent = some p then 1 else 0
  known : ∀ {p c}, fe.Child p c → fe.HasCursor c
  ascending : ∀ {p above}, fe.cursor? p = some above →
    above.children.Pairwise (·.number < ·.number)
  parents : ∀ {c p}, fe.Parent c p → fe.HasCursor p ∧ p.number < c.number

namespace IsForest
variable (forest : fe.IsForest)
include forest

theorem finite_chains : WellFounded fun p c => fe.Parent c p :=
  Subrelation.wf (fun link => (forest.parents link).2) (measure Handle.number).wf

theorem templateAroundWithin_answers {limit : Nat} (known : fe.HasCursor c)
    (enough : c.index < limit) :
    StopsBy (fun _ => False) (fe.templateAroundWithin limit c) := by
  induction limit generalizing c with
  | zero => exact absurd enough (Nat.not_lt_zero _)
  | succ limit ih =>
    refine stopsBy_bind (cursor_stopsBy (.inr known)) fun facts looked => ?_
    split
    · exact stopsBy_pure _
    · split
      · exact stopsBy_pure none
      · rename_i parent link
        obtain ⟨known', before⟩ := forest.parents ⟨facts, cursor_ok looked, link⟩
        refine stopsBy_bind (cursor_stopsBy (.inr known')) fun facts' _ => ?_
        split
        · exact stopsBy_pure none
        · refine ih known' ?_
          have := parent.positive
          unfold Handle.index at *
          omega

/-- The climb to the template around a cursor comes to an end, whatever the kinds are. -/
theorem exists_templateAround (known : fe.HasCursor c) :
    ∃ template, fe.templateAround c = .ok template := by
  have bound : c.index < fe.climbLimit := Nat.lt_succ_of_lt (index_lt_of_hasCursor known)
  have answers := forest.templateAroundWithin_answers known bound
  cases climbed : fe.templateAround c with
  | ok template => exact ⟨template, rfl⟩
  | error stop => exact (answers stop climbed).elim

end IsForest
end Frontend

namespace Snapshot.Draft
variable {d : Draft} {c : Cursor}

theorem branch?_of_cursor? {s : Snapshot} {facts : CursorFacts}
    (known : s.frontend.cursor? c = some facts) : s.branch? c = some facts.branch :=
  Option.map_eq_some_iff.mpr ⟨facts, known, rfl⟩

theorem Sound.isForest (sound : d.Sound) (fits : d.snapshot.cursors.size < UInt32.size) :
    d.snapshot.frontend.IsForest := by
  have grown := sound.grown fits
  have held {c : Cursor} : c ∈ d.cursors ↔ d.snapshot.frontend.HasCursor c :=
    sound.mem_cursors.trans hasCursor_iff.symm
  have order : d.cursors.Pairwise (·.number < ·.number) := by
    rw [sound.cursors]
    exact Handle.ascending_first fits
  have listed {p : Cursor} {above : CursorFacts}
      (known : d.snapshot.frontend.cursor? p = some above) :
      above.children = d.cursors.filter (d.snapshot.parent? · = some p) :=
    grown.children (branch?_of_cursor? known)
  constructor
  case children =>
    intro p c above facts knownParent known
    have link : d.snapshot.parent? c = facts.semanticParent :=
      parent?_of_branch? (branch?_of_cursor? known)
    have nodup : d.cursors.Nodup := order.imp fun before same => before.ne (congrArg _ same)
    have once : d.cursors.count c = 1 := List.count_eq_one_of_mem nodup (held.mpr ⟨facts, known⟩)
    rw [listed knownParent]
    by_cases own : facts.semanticParent = some p
    · rw [if_pos own, List.count_filter (by simp [link, own]), once]
    · have absent : c ∉ d.cursors.filter (d.snapshot.parent? · = some p) := by simp [link, own]
      rw [if_neg own, List.count_eq_zero.mpr absent]
  case known =>
    rintro p c ⟨above, knownParent, member⟩
    rw [listed knownParent] at member
    exact held.mp (List.mem_filter.mp member).1
  case ascending =>
    intro p above known
    rw [listed known]
    exact order.filter _
  case parents =>
    rintro c p ⟨facts, known, link⟩
    have before : p.index < c.index := grown.parents (branch?_of_cursor? known) link
    have inside := Frontend.index_lt_of_hasCursor ⟨facts, known⟩
    exact ⟨hasCursor_iff.mpr (before.trans inside), Handle.number_lt_of_index_lt before⟩

theorem Sound.distinctEntities (sound : d.Sound) (fits : d.snapshot.cursors.size < UInt32.size) :
    d.snapshot.frontend.DistinctEntities := by
  have grown := sound.grown fits
  rintro c c' id ⟨facts, known, rfl⟩ ⟨facts', known', same⟩
  obtain ⟨spelling, made⟩ := grown.entities (branch?_of_cursor? known)
  obtain ⟨spelling', made'⟩ := grown.entities (branch?_of_cursor? known')
  exact cursor_of_cursorId (made.symm.trans (same.symm.trans made'))

/-- Whatever is added and overwritten under parents that were given out before, handles count
up from 1, children and parents form a forest, and no two cursors share an id. -/
theorem leads_forest {ops : List Operation} (built : Leads {} ops d)
    (cursors : d.snapshot.cursors.size < UInt32.size)
    (types : d.snapshot.types.size < UInt32.size) :
    d.cursors.map (·.number) = List.range' 1 d.snapshot.cursors.size ∧
    d.types.map (·.number) = List.range' 1 d.snapshot.types.size ∧
    d.snapshot.frontend.IsForest ∧
    (WellFounded fun p c => d.snapshot.frontend.Parent c p) ∧
    (∀ c, d.snapshot.frontend.HasCursor c →
      ∃ template, d.snapshot.frontend.templateAround c = .ok template) ∧
    d.snapshot.frontend.DistinctEntities ∧
    ∀ op : Operation, (∀ c ∈ op.cursor?, c ∈ d.cursors) → (∀ t ∈ op.type?, t ∈ d.types) →
      ∃ next, d.perform op = some next := by
  have sound := built.sound sound_blank
  have forest := sound.isForest cursors
  refine ⟨?_, ?_, forest, forest.finite_chains, ?_, sound.distinctEntities cursors, ?_⟩
  · rw [sound.cursors]
    exact Handle.map_number_first cursors
  · rw [sound.types]
    exact Handle.map_number_first types
  · intro c known
    exact forest.exists_templateAround known
  · intro op onCursor onType
    exact sound.exists_perform onCursor onType

/-- A template and a variable with the same spelling, and a field spelled like a whole id. -/
def twins : List Operation :=
  [.addCursor .translationUnit "tu.cpp" none,
    .addCursor .classTemplate "Box" (some (.afterCount 0)),
    .addType .int "int",
    .addCursor .fieldDecl "Box#2" (some (.afterCount 1)),
    .setCursorType (.afterCount 2) (.afterCount 0),
    .addCursor .varDecl "Box" (some (.afterCount 0)),
    .addPointer (.afterCount 0) "int *",
    .setTokens (.afterCount 3) ["int", "Box"]]

theorem leads_twins : ∃ d, Leads {} twins d ∧
    d.snapshot.cursors.size < UInt32.size ∧ d.snapshot.types.size < UInt32.size ∧
    d.cursors.map (·.number) = [1, 2, 3, 4] ∧ d.snapshot.frontend.IsForest ∧
    d.snapshot.frontend.DistinctEntities := by
  have built : Leads {} twins _ :=
    .step (by decide) rfl <| .step (by decide) rfl <| .step (by decide) rfl <|
    .step (by decide) rfl <| .step (by decide) rfl <| .step (by decide) rfl <|
    .step (by decide) rfl <| .step (by decide) rfl .done
  obtain ⟨numbers, _, forest, _, _, distinct, _⟩ := leads_forest built (by decide) (by decide)
  exact ⟨_, built, by decide, by decide, numbers, forest, distinct⟩

end Snapshot.Draft
end CxxTrees
