import CxxTrees.Proofs.Build.Stops
import CxxTrees.Proofs.Snapshot.Links

/-!
# Complete snapshots

Whether the types of a snapshot have their parts can be checked record by record. From a
complete snapshot every type that is not invalid is built, unless what it is spelled like
stands against that.
-/

namespace CxxTrees

/-- The types that are stored in a record, but for the template arguments. -/
def TypeRecord.needs (r : TypeRecord) : List TypeHandle :=
  r.pointee.toList ++ r.element.toList ++ r.result.toList ++ r.parameters.getD [] ++
    r.ofClass.toList ++ r.canonical.toList

theorem TypeRecord.mem_needs {r : TypeRecord} {t u : TypeHandle} (needs : (r.facts t).Needs u) :
    u ∈ r.needs ∨ u = t := by
  cases needs with
  | pointee link => simp [TypeRecord.needs, show r.pointee = some u from link]
  | element link => simp [TypeRecord.needs, show r.element = some u from link]
  | result link => simp [TypeRecord.needs, show r.result = some u from link]
  | parameter i link =>
    obtain ⟨list, known, found⟩ := Option.bind_eq_some_iff.mp link
    simp [TypeRecord.needs, known, List.mem_of_getElem? found]
  | ofClass link => simp [TypeRecord.needs, show r.ofClass = some u from link]
  | canonical link =>
    have link : r.canonical.getD t = u := link
    cases own : r.canonical with
    | none => exact .inr (by rw [← link, own]; rfl)
    | some u' => simp [TypeRecord.needs, own, ← link]

namespace Snapshot
variable {s : Snapshot}

/-- Only template arguments are invalid, and the parts that a kind of type is made of are
stored. -/
@[mk_iff]
structure Complete (s : Snapshot) : Prop where
  valid : ∀ r ∈ s.types.toList, r.kind ≠ .invalid → ∀ t ∈ r.needs, ∀ r' ∈ s.types[t.index]?,
    r'.kind ≠ .invalid
  pointee : ∀ r ∈ s.types.toList, r.kind.pointsTo = true → r.pointee.isSome = true
  ofClass : ∀ r ∈ s.types.toList, r.kind = .memberPointer → r.ofClass.isSome = true
  element : ∀ r ∈ s.types.toList, r.kind.isArray = true → r.element.isSome = true ∨
    (r.canonical.bind fun t => s.types[t.index]?.bind (·.element)).isSome = true
  result : ∀ r ∈ s.types.toList, r.kind.isFunction = true → r.result.isSome = true
  parameters : ∀ r ∈ s.types.toList, r.result.isSome = true → r.parameters.isSome = true

instance : Decidable s.Complete := decidable_of_iff' _ (complete_iff s)

theorem frontend_complete (complete : s.Complete) : s.frontend.Complete := by
  have stored {t : TypeHandle} {r : TypeRecord} (found : s.types[t.index]? = some r) :
      r ∈ s.types.toList := Array.mem_toList_iff.mpr (Array.mem_of_getElem? found)
  constructor
  case valid =>
    intro t u facts known valid needs
    obtain ⟨r, found, rfl⟩ := exists_record known
    intro facts' known'
    obtain ⟨r', found', rfl⟩ := exists_record known'
    rcases TypeRecord.mem_needs needs with member | rfl
    · exact complete.valid r (stored found) valid u member r' found'
    · obtain rfl := Option.some.inj (found.symm.trans found')
      exact valid
  case pointee =>
    intro t facts known kind
    obtain ⟨r, found, rfl⟩ := exists_record known
    exact Option.isSome_iff_ne_none.mp (complete.pointee r (stored found) kind)
  case ofClass =>
    intro t facts known kind
    obtain ⟨r, found, rfl⟩ := exists_record known
    exact Option.isSome_iff_ne_none.mp (complete.ofClass r (stored found) kind)
  case element =>
    intro t facts facts' known kind known'
    obtain ⟨r, found, rfl⟩ := exists_record known
    obtain ⟨r', found', rfl⟩ := exists_record known'
    rcases complete.element r (stored found) kind with own | other
    · exact .inl (Option.isSome_iff_ne_none.mp own)
    · refine .inr (Option.isSome_iff_ne_none.mp ?_)
      cases link : r.canonical with
      | none => simp [link] at other
      | some u =>
        have found' : s.types[u.index]? = some r' := by simpa [TypeRecord.facts, link] using found'
        have some_ : r'.element.isSome = true := by simpa [link, found'] using other
        exact some_
  case result =>
    intro t facts known kind
    obtain ⟨r, found, rfl⟩ := exists_record known
    exact Option.isSome_iff_ne_none.mp (complete.result r (stored found) kind)
  case parameters =>
    intro t facts known result
    obtain ⟨r, found, rfl⟩ := exists_record known
    obtain ⟨list, listed⟩ := Option.isSome_iff_exists.mp
      (complete.parameters r (stored found) (Option.isSome_iff_ne_none.mpr result))
    refine ⟨list.length, by simp [TypeRecord.facts, listed], fun i bound => ?_⟩
    simp [TypeRecord.facts, listed, bound]

/-- In a complete snapshot no type that is not invalid, nor any inside of it, lacks a part:
building it fails by what is spelled or named there, or by links that leave the tables or
run in a circle. -/
theorem typeAt_of_complete (complete : s.Complete) {c : Cursor} {t : TypeHandle}
    {facts : TypeFacts} (known : s.frontend.type? t = some facts) (valid : facts.kind ≠ .invalid)
    {stop : Stop} (stopped : (s.frontend.typeAt ⟨c, t⟩).outcome = .error stop) :
    (∃ fault : Fault, fault.OfSpelling ∧ stop = .fault fault) ∨
      (stop = .outsideTable ∧ ¬ (s.Closed ∧ s.frontend.HasCursor c)) ∨
      (stop = .endless ∧ ¬ s.frontend.Acyclic) := by
  have complete := frontend_complete complete
  let admitted (stop : Stop) : Prop :=
    (∃ fault : Fault, fault.OfSpelling ∧ stop = .fault fault) ∨
      (stop = .outsideTable ∧ ¬ (s.Closed ∧ s.frontend.HasCursor c)) ∨
      (stop = .endless ∧ ¬ s.frontend.Acyclic)
  have admits : s.frontend.AdmitsBuild admitted := by
    constructor
    case spelling => exact fun spelled => .inl ⟨_, spelled, rfl⟩
    case parts => exact .inr complete
    case outside =>
      by_cases closed : s.Closed ∧ s.frontend.HasCursor c
      · exact .inr (frontend_closed closed.1)
      · exact .inl (.inr (.inl ⟨rfl, closed⟩))
    case endless =>
      by_cases acyclic : s.frontend.Acyclic
      · exact .inr acyclic
      · exact .inl (.inr (.inr ⟨rfl, acyclic⟩))
  have inside : s.frontend.InsideSite admitted ⟨c, t⟩ := by
    refine ⟨?_, .inr ⟨facts, known⟩⟩
    by_cases closed : s.Closed ∧ s.frontend.HasCursor c
    · exact .inr closed.2
    · exact .inl (.inr (.inl ⟨rfl, closed⟩))
  exact admits.typeAt_stopsBy inside
    (.inr ⟨complete, Frontend.isValid_of_known known valid⟩) stop stopped

/-- A member function with an argument of a template whose own argument is no type, and an
array of a typedef whose bound is cut off. -/
def corners : Snapshot where
  cursors := #[
    { kind := .classTemplate, spelling := "Box", entity := ⟨"Box"⟩ },
    { kind := .varDecl, spelling := "v", entity := ⟨"v"⟩ }]
  types := #[
    { kind := .int, spelling := "int" },
    { kind := .invalid, spelling := "" },
    { kind := .elaborated, spelling := "Box<3>", declaration := some (.afterCount 0),
      arguments := some [some (.afterCount 1)] },
    { kind := .functionProto, spelling := "int (Box<3>)", result := some (.afterCount 0),
      parameters := some [.afterCount 2] },
    { kind := .record, spelling := "Box", declaration := some (.afterCount 0) },
    { kind := .memberPointer, spelling := "int (Box::*)(Box<3>)", pointee := some (.afterCount 3),
      ofClass := some (.afterCount 4) },
    { kind := .incompleteArray, spelling := "int[", element := some (.afterCount 5) },
    { kind := .incompleteArray, spelling := "row", canonical := some (.afterCount 6) },
    { kind := .lvalueReference, spelling := "row &", pointee := some (.afterCount 7) }]

theorem typeAt_corners : (corners.frontend.typeAt ⟨.afterCount 1, .afterCount 8⟩).outcome =
    .error (.fault (.malformedSpelling "int[" "array spelling must end in ']'")) := rfl

theorem typeAt_of_complete_corners :
    let site : Site := ⟨.afterCount 1, .afterCount 8⟩
    let stop : Stop := .fault (.malformedSpelling "int[" "array spelling must end in ']'")
    corners.Complete ∧
    (∃ facts, corners.frontend.type? site.type = some facts ∧ facts.kind ≠ .invalid) ∧
    (corners.frontend.typeAt site).outcome = .error stop ∧
    ((∃ fault : Fault, fault.OfSpelling ∧ stop = .fault fault) ∨
      (stop = .outsideTable ∧ ¬ (corners.Closed ∧ corners.frontend.HasCursor site.cursor)) ∨
      (stop = .endless ∧ ¬ corners.frontend.Acyclic)) := by
  intro site stop
  have complete : corners.Complete := by decide
  have valid : TypeKind.lvalueReference ≠ .invalid := nofun
  exact ⟨complete, ⟨_, rfl, valid⟩, typeAt_corners,
    typeAt_of_complete complete (t := site.type) rfl valid typeAt_corners⟩

end Snapshot
end CxxTrees
