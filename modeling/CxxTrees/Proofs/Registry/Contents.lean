import CxxTrees.Proofs.Frontend.PostOrder
import CxxTrees.Proofs.Session.Inside
import CxxTrees.Proofs.Session.Termination

/-!
# What a registry holds

An id is found with the entity that came last, and the size counts the ids, however often
each of them came. A tree is registered from the right and from the top, so of the cursors
that share an id the one that comes last is the first one in post-order.
-/

namespace CxxTrees
namespace Registry
variable {r : Registry} {e : Entity} {es : List Entity} {id : EntityId}

/-! ### Look-ups -/

theorem id_of_lookup (found : r.lookup id = some e) : e.id = id := by
  have same := List.find?_some found
  exact eq_of_beq same

theorem lookup_insert : (r.insert e).lookup id = if id = e.id then some e else r.lookup id := by
  unfold insert
  split
  case isTrue present =>
    -- An entity is replaced by one of the same id, so a look-up stops at the same place.
    have stop : ((·.id == id) ∘ fun other => if other.id = e.id then e else other) =
        fun other : Entity => other.id == id := by
      funext other
      by_cases same : other.id = e.id
      · simp [same]
      · simp [same]
    have step : Registry.lookup ⟨r.entities.map fun other => if other.id = e.id then e else other⟩
        id = (r.lookup id).map fun other => if other.id = e.id then e else other := by
      rw [lookup, List.find?_map, stop]
      rfl
    rw [step]
    split
    case isTrue same =>
      subst same
      obtain ⟨other, found⟩ := Option.isSome_iff_exists.mp present
      rw [found, Option.map_some, if_pos (id_of_lookup found)]
    case isFalse apart =>
      cases found : r.lookup id with
      | none => rfl
      | some other =>
        have kept : other.id ≠ e.id := fun same => apart ((id_of_lookup found).symm.trans same)
        rw [Option.map_some, if_neg kept]
  case isFalse absent =>
    have step : Registry.lookup ⟨r.entities ++ [e]⟩ id =
        (r.lookup id).or ([e].find? (·.id == id)) := List.find?_append
    rw [step, List.find?_cons, List.find?_nil]
    by_cases same : id = e.id
    · subst same
      rw [if_pos rfl, Option.not_isSome_iff_eq_none.mp absent, beq_self_eq_true]
      rfl
    · rw [if_neg same, beq_false_of_ne (Ne.symm same)]
      exact Option.or_none

theorem lookup_insertAll :
    (r.insertAll es).lookup id = (es.reverse.find? (·.id = id)).or (r.lookup id) := by
  induction es generalizing r with
  | nil => rfl
  | cons e es ih =>
    have step : r.insertAll (e :: es) = (r.insert e).insertAll es := rfl
    rw [step, ih, lookup_insert, List.reverse_cons, List.find?_append, Option.or_assoc]
    congr 1
    rw [List.find?_cons, List.find?_nil]
    by_cases same : id = e.id
    · subst same
      simp
    · simp [same, Ne.symm same]

/-! ### Sizes -/

def ids (r : Registry) : List EntityId := r.entities.map (·.id)

theorem mem_ids : id ∈ r.ids ↔ (r.lookup id).isSome := by
  rw [ids, List.mem_map, lookup, List.find?_isSome]
  simp only [beq_iff_eq]

theorem ids_insert : (r.insert e).ids = if e.id ∈ r.ids then r.ids else r.ids ++ [e.id] := by
  unfold insert
  by_cases present : (r.lookup e.id).isSome
  · rw [if_pos present, if_pos (mem_ids.mpr present), ids, List.map_map]
    apply List.map_congr_left
    intro other _
    rw [Function.comp_apply]
    split
    · exact Eq.symm ‹_›
    · rfl
  · rw [if_neg present, if_neg (mt mem_ids.mp present), ids, List.map_append]
    rfl

theorem nodup_ids_insertAll (nodup : r.ids.Nodup) : (r.insertAll es).ids.Nodup := by
  induction es generalizing r with
  | nil => exact nodup
  | cons e es ih =>
    apply ih (r := r.insert e)
    rw [ids_insert]
    split
    case isTrue => exact nodup
    case isFalse absent =>
      rw [← List.concat_eq_append]
      exact nodup.concat absent

theorem toFinset_ids_insertAll :
    (r.insertAll es).ids.toFinset = r.ids.toFinset ∪ (es.map (·.id)).toFinset := by
  ext id
  rw [Finset.mem_union, List.mem_toFinset, List.mem_toFinset, List.mem_toFinset, mem_ids,
    mem_ids, lookup_insertAll, Option.isSome_or, Bool.or_eq_true, List.find?_isSome, or_comm,
    List.mem_map]
  simp only [List.mem_reverse, decide_eq_true_eq]

/-- The ids that ever came are counted once each. -/
theorem size_insertAll : (({} : Registry).insertAll es).size = (es.map (·.id)).toFinset.card := by
  have nodup : (({} : Registry).insertAll es).ids.Nodup := nodup_ids_insertAll List.nodup_nil
  calc (({} : Registry).insertAll es).size
      = (({} : Registry).insertAll es).ids.length := (List.length_map _).symm
    _ = (({} : Registry).insertAll es).ids.toFinset.card :=
        (List.toFinset_card_of_nodup nodup).symm
    _ = (es.map (·.id)).toFinset.card := by
        rw [toFinset_ids_insertAll]
        exact congrArg Finset.card (Finset.empty_union _)

theorem insertAll_append {more : List Entity} :
    r.insertAll (es ++ more) = (r.insertAll es).insertAll more := List.foldl_append

end Registry

/-! ### Trees -/

namespace Frontend
variable {fe : Frontend} {root c : Cursor}

/-- The entity that a cursor is registered as, if it is. -/
def registered? (fe : Frontend) (c : Cursor) : Option Entity :=
  (fe.cursor? c).bind fun facts =>
    if facts.kind.isRegistered then some ⟨facts.entity, facts.spelling, facts.kind⟩ else none

def registered (fe : Frontend) (order : List Cursor) : List Entity := order.filterMap fe.registered?

theorem registered_of_mapM {cs : List Cursor} {entities : List Entity}
    (h : cs.mapM fe.entityAt = .ok entities) :
    entities.filter (·.kind.isRegistered) = fe.registered cs := by
  induction cs generalizing entities with
  | nil =>
    obtain rfl := except_pure_ok h
    rfl
  | cons c cs ih =>
    rw [List.mapM_cons] at h
    obtain ⟨e, first, h⟩ := except_bind_ok h
    obtain ⟨more, rest, h⟩ := except_bind_ok h
    obtain rfl := except_pure_ok h
    obtain ⟨facts, looked, made⟩ := except_bind_ok first
    obtain rfl := except_pure_ok made
    have head : fe.registered? c = if facts.kind.isRegistered then
        some ⟨facts.entity, facts.spelling, facts.kind⟩ else none := by
      rw [registered?, cursor_ok looked, Option.bind_some]
    rw [registered, List.filterMap_cons, head, List.filter_cons, ih rest]
    cases facts.kind.isRegistered with
    | true => rfl
    | false => rfl

/-- The entities come from the right: in post-order, but for the direction. -/
theorem exists_entitiesFrom (acyclic : fe.Acyclic)
    (known : ∀ c, Relation.ReflTransGen fe.Child root c → fe.HasCursor c) :
    ∃ order, fe.PostOrder [root] order ∧
      fe.entitiesFrom root = .ok (fe.registered order).reverse := by
  obtain ⟨walk, walked⟩ := exists_fromRight acyclic.children known
  have post : fe.PostOrder [root] walk.reverse := postOrder_of_fromRight walked
  have each : ∀ c ∈ walk, ∃ e, fe.entityAt c = .ok e := by
    intro c member
    obtain ⟨_, start, path⟩ := (mem_postOrder post).mp (List.mem_reverse.mpr member)
    obtain rfl := List.mem_singleton.mp start
    obtain ⟨facts, found⟩ := known c path
    refine ⟨⟨facts.entity, facts.spelling, facts.kind⟩, ?_⟩
    rw [entityAt, cursor, found]
    rfl
  obtain ⟨entities, made⟩ := exists_mapM each
  refine ⟨walk.reverse, post, ?_⟩
  rw [registered, List.filterMap_reverse, List.reverse_reverse, ← registered,
    ← registered_of_mapM made, entitiesFrom, walked]
  show (walk.mapM fe.entityAt >>= _) = _
  rw [made]
  rfl

end Frontend

namespace Registry
variable {fe : Frontend}

/-- Whatever was registered before, to register a tree ends. Below a root that only leads to
cursors in the table, every id is then found with the first entity of the tree that has it,
in post-order, or as before if there is none, and the size counts all ids that ever came. -/
theorem insertTree_postOrder (acyclic : fe.Acyclic) (history : List Entity) (root : Cursor) :
    let r := ({} : Registry).insertAll history
    r.insertTree fe root ≠ .error .endless ∧
    ((∀ c, Relation.ReflTransGen fe.Child root c → fe.HasCursor c) → ∃ order r',
      fe.PostOrder [root] order ∧ r.insertTree fe root = .ok r' ∧
      (∀ id, r'.lookup id = ((fe.registered order).find? (·.id = id)).or (r.lookup id)) ∧
      r'.size = ((history ++ fe.registered order).map (·.id)).toFinset.card) := by
  intro r
  constructor
  · intro stopped
    have admits : fe.Admits (· ≠ .endless) := Frontend.admits_of_acyclic acyclic
    have ends : StopsBy (· ≠ .endless) (r.insertTree fe root) :=
      stopsBy_return (Frontend.entitiesFrom_stopsBy admits (.inl nofun))
    exact ends _ stopped rfl
  · intro known
    obtain ⟨order, post, entities⟩ := Frontend.exists_entitiesFrom acyclic known
    refine ⟨order, r.insertAll (fe.registered order).reverse, post, ?_, fun id => ?_, ?_⟩
    · rw [insertTree, entities]
      rfl
    · rw [lookup_insertAll, List.reverse_reverse]
    · rw [← insertAll_append, size_insertAll, List.map_append, List.map_append,
        List.toFinset_append, List.toFinset_append, List.map_reverse, List.toFinset_reverse]

/-- A class that is declared twice, the second time with a field that has a value, and a
variable. -/
def declaredTwice : Snapshot where
  cursors := #[
    { kind := .translationUnit, spelling := "tu.cpp", entity := ⟨"tu"⟩,
      children := [.afterCount 1, .afterCount 2, .afterCount 5] },
    { kind := .classDecl, spelling := "A", entity := ⟨"A"⟩ },
    { kind := .structDecl, spelling := "A", entity := ⟨"A"⟩, children := [.afterCount 3] },
    { kind := .fieldDecl, spelling := "x", entity := ⟨"x"⟩, children := [.afterCount 4] },
    { kind := .integerLiteral, spelling := "1", entity := ⟨"1"⟩ },
    { kind := .varDecl, spelling := "a", entity := ⟨"a"⟩ }]

theorem insertTree_declaredTwice :
    let fe := declaredTwice.frontend
    let history : List Entity := [⟨⟨"a"⟩, "old", .fieldDecl⟩, ⟨⟨"b"⟩, "b", .varDecl⟩]
    fe.Acyclic ∧ (∀ c, Relation.ReflTransGen fe.Child (.afterCount 0) c → fe.HasCursor c) ∧
    ∃ r', (({} : Registry).insertAll history).insertTree fe (.afterCount 0) = .ok r' ∧
      r'.lookup ⟨"A"⟩ = some ⟨⟨"A"⟩, "A", .classDecl⟩ ∧
      r'.lookup ⟨"a"⟩ = some ⟨⟨"a"⟩, "a", .varDecl⟩ ∧
      r'.lookup ⟨"b"⟩ = some ⟨⟨"b"⟩, "b", .varDecl⟩ ∧ r'.lookup ⟨"1"⟩ = none ∧ r'.size = 4 := by
  intro fe history
  have acyclic : fe.Acyclic := Snapshot.acyclic_of_ordered (by decide)
  have closed : fe.Closed := Snapshot.frontend_closed (by decide)
  have known := closed.hasCursor_below (c := .afterCount 0) ⟨_, rfl⟩
  obtain ⟨order, r', post, done, found, size⟩ :=
    (insertTree_postOrder acyclic history (.afterCount 0)).2 known
  have walked : fe.PostOrder [.afterCount 0] [.afterCount 0, .afterCount 5, .afterCount 2,
      .afterCount 3, .afterCount 4, .afterCount 1].reverse := Frontend.postOrder_of_fromRight rfl
  obtain rfl := Frontend.postOrder_unique post walked
  refine ⟨acyclic, known, r', done, ?_, ?_, ?_, ?_, ?_⟩
  · rw [found]; rfl
  · rw [found]; rfl
  · rw [found]; rfl
  · rw [found]; rfl
  · rw [size]; decide

end Registry
end CxxTrees
