import CxxTrees.Proofs.Registry.Contents

/-!
# Declarations and what else is registered

Expressions are left out of a registry by their kinds. Statements are not, nor is the name of an
overloaded function in a call, and nor is a cursor of a kind that is not known.
-/

namespace CxxTrees

namespace CursorKind

/-- Kinds of declarations, and namespaces. -/
def isDeclaration (kind : CursorKind) : Bool :=
  [.«namespace», .classDecl, .structDecl, .unionDecl, .enumDecl, .classTemplate,
    .classTemplatePartialSpecialization, .typeAliasTemplateDecl, .functionTemplate, .functionDecl,
    .cxxMethod, .constructor, .destructor, .conversionFunction, .templateTypeParameter,
    .nonTypeTemplateParameter, .templateTemplateParameter, .typedefDecl, .typeAliasDecl, .varDecl,
    .fieldDecl, .parmDecl].contains kind

def isStatement (kind : CursorKind) : Bool :=
  [.compoundStmt, .declStmt, .returnStmt].contains kind

/-- Kinds that are no declarations and are registered as if they were. -/
def isStray (kind : CursorKind) : Bool :=
  kind.isStatement || [.overloadedDeclRef, .other].contains kind

theorem isRegistered_eq (kind : CursorKind) :
    kind.isRegistered = (kind.isDeclaration || kind.isStray) := by
  cases kind <;> rfl

end CursorKind

namespace Frontend
variable {fe : Frontend} {root : Cursor} {order : List Cursor} {id : EntityId}

/-- At or below `root` there is a cursor with the id and of such a kind. -/
def OccursBelow (fe : Frontend) (root : Cursor) (p : CursorKind → Bool) (id : EntityId) : Prop :=
  ∃ c facts, Relation.ReflTransGen fe.Child root c ∧ fe.cursor? c = some facts ∧
    p facts.kind ∧ facts.entity = id

theorem occursBelow_or {p q : CursorKind → Bool} :
    fe.OccursBelow root (fun kind => p kind || q kind) id ↔
      fe.OccursBelow root p id ∨ fe.OccursBelow root q id := by
  unfold OccursBelow
  simp only [Bool.or_eq_true, or_and_right, and_or_left, exists_or]

theorem find?_registered (post : fe.PostOrder [root] order) :
    ((fe.registered order).find? (·.id = id)).isSome ↔
      fe.OccursBelow root CursorKind.isRegistered id := by
  rw [List.find?_isSome]
  constructor
  · rintro ⟨e, member, same⟩
    obtain ⟨c, walked, found⟩ := List.mem_filterMap.mp member
    obtain ⟨facts, known, found⟩ := Option.bind_eq_some_iff.mp found
    obtain ⟨_, start, path⟩ := (mem_postOrder post).mp walked
    obtain rfl := List.mem_singleton.mp start
    split at found
    case isTrue kept =>
      obtain rfl := Option.some.inj found
      exact ⟨c, facts, path, known, kept, of_decide_eq_true same⟩
    case isFalse => cases found
  · rintro ⟨c, facts, path, known, kept, rfl⟩
    have walked : c ∈ order := (mem_postOrder post).mpr ⟨root, List.mem_singleton_self root, path⟩
    refine ⟨⟨facts.entity, facts.spelling, facts.kind⟩, List.mem_filterMap.mpr ⟨c, walked, ?_⟩, ?_⟩
    · rw [registered?, known, Option.bind_some, if_pos kept]
    · exact decide_eq_true rfl

end Frontend

namespace Registry
variable {fe : Frontend} {root : Cursor}

/-- Of a tree that is registered on its own, an id is found exactly if it belongs to a declaration
below or to one of the stray cursors, so it is found for a declaration only, unless one of these
has an id that no declaration has. -/
theorem lookup_insertTree_iff (acyclic : fe.Acyclic)
    (known : ∀ c, Relation.ReflTransGen fe.Child root c → fe.HasCursor c) :
    ∃ r, ({} : Registry).insertTree fe root = .ok r ∧ ∀ id,
      (((r.lookup id).isSome ↔ fe.OccursBelow root CursorKind.isDeclaration id) ↔
        (fe.OccursBelow root CursorKind.isStray id →
          fe.OccursBelow root CursorKind.isDeclaration id)) ∧
      ((r.lookup id).isSome ↔ fe.OccursBelow root CursorKind.isDeclaration id ∨
        fe.OccursBelow root CursorKind.isStray id) := by
  obtain ⟨order, post, entities⟩ := Frontend.exists_entitiesFrom acyclic known
  refine ⟨({} : Registry).insertAll (fe.registered order).reverse, ?_, fun id => ?_⟩
  · rw [insertTree, entities]
    rfl
  have found : ((({} : Registry).insertAll (fe.registered order).reverse).lookup id).isSome ↔
      fe.OccursBelow root CursorKind.isDeclaration id ∨
        fe.OccursBelow root CursorKind.isStray id := by
    have none_ : ({} : Registry).lookup id = none := rfl
    rw [lookup_insertAll, List.reverse_reverse, none_, Option.or_none,
      Frontend.find?_registered post, funext CursorKind.isRegistered_eq, Frontend.occursBelow_or]
  refine ⟨?_, found⟩
  rw [found]
  exact or_iff_left_iff_imp

/-- The function `f` with the body `{ int x = g(1); return; }`, where `g` has overloads. -/
def functionBody : Snapshot where
  cursors := #[
    { kind := .translationUnit, spelling := "tu.cpp", entity := ⟨"tu"⟩,
      children := [.afterCount 1] },
    { kind := .functionDecl, spelling := "f", entity := ⟨"f"⟩, children := [.afterCount 2] },
    { kind := .compoundStmt, spelling := "", entity := ⟨"body"⟩,
      children := [.afterCount 3, .afterCount 8] },
    { kind := .declStmt, spelling := "", entity := ⟨"int x = g(1);"⟩, children := [.afterCount 4] },
    { kind := .varDecl, spelling := "x", entity := ⟨"x"⟩, children := [.afterCount 5] },
    { kind := .callExpr, spelling := "g", entity := ⟨"g(1)"⟩,
      children := [.afterCount 6, .afterCount 7] },
    { kind := .overloadedDeclRef, spelling := "g", entity := ⟨"g"⟩ },
    { kind := .integerLiteral, spelling := "1", entity := ⟨"1"⟩ },
    { kind := .returnStmt, spelling := "", entity := ⟨"return;"⟩ }]

/-- The body of the function is in no declaration. -/
theorem not_declared_body : ¬ functionBody.frontend.OccursBelow (.afterCount 0)
    CursorKind.isDeclaration ⟨"body"⟩ := by
  rintro ⟨c, facts, _, known, declares, same⟩
  have none_ : ∀ facts ∈ functionBody.cursors.toList,
      ¬ (facts.kind.isDeclaration ∧ facts.entity = ⟨"body"⟩) := by decide
  exact none_ facts (Snapshot.cursor_mem known) ⟨declares, same⟩

theorem lookup_insertTree_functionBody :
    let fe := functionBody.frontend
    fe.Acyclic ∧ (∀ c, Relation.ReflTransGen fe.Child (.afterCount 0) c → fe.HasCursor c) ∧
    ∃ r, ({} : Registry).insertTree fe (.afterCount 0) = .ok r ∧
      ((r.lookup ⟨"f"⟩).isSome ↔
        fe.OccursBelow (.afterCount 0) CursorKind.isDeclaration ⟨"f"⟩) ∧
      (r.lookup ⟨"body"⟩).isSome ∧
      ¬ ((r.lookup ⟨"body"⟩).isSome ↔
        fe.OccursBelow (.afterCount 0) CursorKind.isDeclaration ⟨"body"⟩) := by
  intro fe
  have acyclic : fe.Acyclic := Snapshot.acyclic_of_ordered (by decide)
  have closed : fe.Closed := Snapshot.frontend_closed (by decide)
  have known := closed.hasCursor_below (c := .afterCount 0) ⟨_, rfl⟩
  have function : fe.Child (.afterCount 0) (.afterCount 1) := ⟨_, rfl, by decide⟩
  have body : fe.Child (.afterCount 1) (.afterCount 2) := ⟨_, rfl, by decide⟩
  have declared : fe.OccursBelow (.afterCount 0) CursorKind.isDeclaration ⟨"f"⟩ :=
    ⟨.afterCount 1, _, .single function, rfl, rfl, rfl⟩
  have stray : fe.OccursBelow (.afterCount 0) CursorKind.isStray ⟨"body"⟩ :=
    ⟨.afterCount 2, _, .tail (.single function) body, rfl, rfl, rfl⟩
  obtain ⟨r, done, found⟩ := lookup_insertTree_iff acyclic known
  refine ⟨acyclic, known, r, done, ?_, ?_, ?_⟩
  · exact (found ⟨"f"⟩).1.mpr fun _ => declared
  · exact (found ⟨"body"⟩).2.mpr (.inr stray)
  · intro claimed
    exact not_declared_body ((found ⟨"body"⟩).1.mp claimed stray)

/-- Of a tree that is registered on its own, the ids of declarations are found and no others. -/
def RegistersDeclarations (fe : Frontend) : Prop :=
  ∀ {root : Cursor} {r : Registry}, ({} : Registry).insertTree fe root = .ok r →
    ∀ id, (r.lookup id).isSome ↔ fe.OccursBelow root CursorKind.isDeclaration id

theorem not_registersDeclarations_functionBody :
    ¬ RegistersDeclarations functionBody.frontend := by
  intro registers
  have done : ∃ r, ({} : Registry).insertTree functionBody.frontend (.afterCount 0) = .ok r ∧
      (r.lookup ⟨"body"⟩).isSome := ⟨_, rfl, rfl⟩
  obtain ⟨r, done, found⟩ := done
  exact not_declared_body ((registers done ⟨"body"⟩).mp found)

end Registry
end CxxTrees
