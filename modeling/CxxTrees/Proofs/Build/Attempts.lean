import CxxTrees.Proofs.Build.Parts
import CxxTrees.Proofs.Build.Reading
import CxxTrees.Snapshot.Basic

/-!
# Attempts

A type is tried as an instantiation before it is built in the plain way, and what the frontend
does not expose is tried in several readings. An attempt that gives no answer has not built
anything yet, so it leaves the state as it was, and what is reported comes from the attempt that
was taken (`triesSilently`).
-/

namespace CxxTrees

namespace Build

/-- Whether a build comes to its end without an answer. -/
def passes (x : Build (Option α)) : Bool :=
  match x.outcome with
  | .ok none => true
  | _ => false

/-- A build that has no answer has done nothing. -/
def Silent (x : Build (Option α)) : Prop := x.outcome = .ok none → x = pure none

/-- A build has an answer, or fails. -/
def Decides (x : Build (Option α)) : Prop := x.outcome ≠ .ok none

def reports (x : Build α) : List Report := x.events.filterMap Event.report?

theorem passes_iff {x : Build (Option α)} : x.passes = true ↔ x.outcome = .ok none := by
  unfold passes
  split <;> simp_all

theorem decides_some (a : α) : (pure (some a) : Build (Option α)).Decides := nofun

theorem decides_bind {x : Build α} {f : α → Build (Option β)} (rest : ∀ a, (f a).Decides) :
    (x >>= f).Decides := by
  intro passed
  obtain ⟨a, _, passed⟩ := bind_ok passed
  exact rest a passed

theorem silent_of_decides {x : Build (Option α)} (decides : x.Decides) : x.Silent :=
  fun passed => absurd passed decides

theorem silent_none : (pure none : Build (Option α)).Silent := fun _ => rfl

theorem silent_lift (x : Except Stop (Option α)) : (liftM x : Build (Option α)).Silent := by
  intro passed
  rw [outcome_lift] at passed
  subst passed
  rfl

theorem silent_look {x : Except Stop α} {f : α → Build (Option β)} (rest : ∀ a, (f a).Silent) :
    (liftM x >>= f).Silent := by
  intro passed
  obtain ⟨a, looked, passed⟩ := bind_ok passed
  rw [outcome_lift] at looked
  rw [Frontend.lift_bind_of_ok looked]
  exact rest a passed

theorem bind_of_silent {x : Build (Option α)} (silent : x.Silent) (passed : x.outcome = .ok none)
    (f : Option α → Build β) : x >>= f = f none := by
  rw [silent passed, pure_bind]

theorem reports_bind {x : Build α} {f : α → Build β} (rest : ∀ a, (f a).reports = []) :
    (x >>= f).reports = x.reports := by
  cases outcome : x.outcome with
  | error stop =>
    rw [bind_of_error outcome]
    rfl
  | ok a =>
    rw [bind_of_ok outcome, reports, List.filterMap_append]
    exact (congrArg _ (rest a)).trans (List.append_nil _)

end Build

/-- A build without an answer finds the state as it was, the graph and all events. -/
def LeavesState (x : Build (Option α)) : Prop :=
  ∀ s t, (Run.ofBuild x).run s = .ok none t → t = s

theorem leavesState_of_silent {x : Build (Option α)} (silent : x.Silent) : LeavesState x := by
  intro s t run
  obtain rfl := silent (Run.build_ok run).1
  cases run
  simp [Build.pure_eq]

/-! ### Readings in order -/

section
variable {input : α} {readings : List (Reading Build α β)}

/-- The first of several readings that gives an answer, or fails. -/
def decisive? (input : α) (readings : List (Reading Build α β)) : Option (Reading Build α β) :=
  readings.find? fun reading => !(reading.run input).passes

/-- It is as if no reading in front of the decisive one had been tried. -/
theorem firstReading_eq {note : String → Build Unit}
    (silent : ∀ reading ∈ readings, (reading.run input).Silent) :
    firstReading note input readings = match decisive? input readings with
      | none => pure none
      | some reading => do
        let answer ← reading.run input
        note reading.name
        return answer := by
  induction readings with
  | nil => rfl
  | cons reading readings ih =>
    unfold firstReading decisive?
    cases passes : (reading.run input).passes with
    | true =>
      have nothing := silent reading List.mem_cons_self (Build.passes_iff.mp passes)
      rw [nothing, pure_bind, List.find?_cons_of_neg (by simp [passes])]
      exact ih fun later member => silent later (List.mem_cons_of_mem reading member)
    | false =>
      rw [List.find?_cons_of_pos (by simp [passes])]
      dsimp only
      cases outcome : (reading.run input).outcome with
      | error stop => rw [Build.bind_of_error outcome, Build.bind_of_error outcome]
      | ok answer =>
        cases answer with
        | some b => rw [Build.bind_of_ok outcome, Build.bind_of_ok outcome]
        | none => rw [Build.passes_iff.mpr outcome] at passes; cases passes

end

namespace Frontend
open Build
variable {fe : Frontend} {sub : Builder} {site : Site}

/-! ### Single attempts -/

theorem functionAt_silent : (fe.functionAt sub site).Silent := by
  refine silent_look fun facts => silent_look fun result => ?_
  cases result with
  | none => exact silent_none
  | some result =>
    exact silent_of_decides (decides_bind fun _ => decides_bind fun _ => decides_some _)

theorem arrayAt_silent : (fe.arrayAt sub site).Silent := by
  refine silent_look fun element => ?_
  cases element with
  | none => exact silent_none
  | some element =>
    refine silent_look fun facts => silent_look fun size => ?_
    exact silent_of_decides (decides_bind fun _ => decides_some _)

/-- No argument is built before it is clear that there is an instantiation. -/
theorem instantiationAt_silent : (fe.instantiationAt sub site).Silent := by
  refine silent_look fun leaf => ?_
  split
  split
  · refine silent_look fun template => ?_
    split
    · split
      · refine silent_of_decides (decides_bind fun facts => ?_)
        split
        · exact decides_bind fun _ => decides_bind fun _ => decides_bind fun _ => decides_some _
        · exact decides_bind fun _ => decides_bind fun _ => decides_some _
      · exact silent_none
    · exact silent_none
  · exact silent_none

theorem readings_silent (reading : Reading Build Site Ty) (member : reading ∈ fe.readings sub) :
    (reading.run site).Silent := by
  simp only [readings, List.mem_cons, List.not_mem_nil, or_false] at member
  rcases member with rfl | rfl | rfl | rfl | rfl
  · exact functionAt_silent
  · exact arrayAt_silent
  · exact silent_lift _
  · exact instantiationAt_silent
  · exact silent_lift _

theorem builder_silent (depth : Nat) : ((fe.builder depth).instantiation site).Silent := by
  cases depth with
  | zero => exact silent_of_decides nofun
  | succ depth => exact instantiationAt_silent

/-! ### What is done after an attempt -/

section
variable {facts : TypeFacts} {depth : Nat}

theorem nodeAt_of_passed (known : fe.type? site.type = some facts)
    (elaborated : facts.kind = .elaborated)
    (passed : (fe.instantiationAt sub site).outcome = .ok none) :
    fe.nodeAt sub site = do return some (← fe.userDefinedAt site) := by
  unfold nodeAt
  rw [lift_bind_of_ok (type_of_known known)]
  simp only [elaborated, TypeKind.builtin?]
  exact bind_of_silent instantiationAt_silent passed _

theorem argumentAt_of_passed {template : Cursor} {type a : TypeHandle} {index : Nat}
    {text : List Char} (known : fe.type? type = some facts)
    (handle : facts.argument index = some a)
    (passed : ((fe.builder depth).instantiation ⟨template, a⟩).outcome = .ok none) :
    fe.argumentAt (fe.builder depth) template type index text = do
      match ← (fe.builder depth).node ⟨template, a⟩ with
      | some t => return if t.isBlankUnexposed then argumentOfText text else .type t
      | none => return argumentOfText text := by
  unfold argumentAt
  rw [lift_bind_of_ok (type_of_known known)]
  simp only [handle]
  rw [bind_of_silent (builder_silent depth) passed]
  dsimp only
  congr 1
  funext built
  cases built <;> rfl

theorem canonicalAt_of_passed {declared : Ty} (known : fe.type? site.type = some facts)
    (other : facts.canonical ≠ site.type)
    (kind : declared.nodeClass = .instantiation ∨ declared.nodeClass = .userDefined)
    (passed : (fe.typeBuilder.instantiation ⟨site.cursor, facts.canonical⟩).outcome = .ok none) :
    fe.canonicalAt site declared =
      fe.required fe.typeBuilder ⟨site.cursor, facts.canonical⟩ := by
  unfold canonicalAt canonicalWith
  rw [lift_bind_of_ok (type_of_known known)]
  simp only [if_neg other]
  rcases kind with kind | kind <;>
    exact kind ▸ bind_of_silent (builder_silent _) passed _

end

theorem unexposedAt_reports : (fe.unexposedAt sub site).reports =
    (decisive? site (fe.readings sub)).elim [] fun reading => (reading.run site).reports := by
  unfold unexposedAt
  rw [firstReading_eq readings_silent]
  have plain : ∀ answer : Option Ty, Build.reports (do
      match answer with
      | some t => return t
      | none => return .unexposed (String.ofList (← fe.spellingAt site))) = [] := by
    intro answer
    cases answer with
    | some t => rfl
    | none => exact reports_bind fun _ => rfl
  cases decisive? site (fe.readings sub) with
  | none => exact plain none
  | some reading => exact (reports_bind plain).trans (reports_bind fun _ => rfl)

/-- The type at a site is what the decisive reading has as an answer. -/
theorem unexposedAt_taken {t : Ty} {reading : Reading Build Site Ty}
    (decisive : decisive? site (fe.readings sub) = some reading)
    (built : (fe.unexposedAt sub site).outcome = .ok t) :
    (reading.run site).outcome = .ok (some t) := by
  unfold unexposedAt at built
  rw [firstReading_eq readings_silent, decisive] at built
  obtain ⟨answer, read, built⟩ := bind_ok built
  obtain ⟨answer', run, read⟩ := bind_ok read
  obtain ⟨_, _, read⟩ := bind_ok read
  obtain rfl := pure_ok read
  cases answer' with
  | some t' =>
    obtain rfl := pure_ok built
    exact run
  | none =>
    have decides := List.find?_some decisive
    rw [passes_iff.mpr run] at decides
    cases decides

/-- An attempt without an answer leaves no trace, neither in the state nor in what is done next,
and of several readings only the one that is taken reports anything. -/
structure TriesSilently (fe : Frontend) : Prop where
  reading : ∀ {sub : Builder} {site}, ∀ reading ∈ fe.readings sub, LeavesState (reading.run site)
  instantiation : ∀ {sub : Builder} {site}, LeavesState (fe.instantiationAt sub site)
  inside : ∀ {depth site}, LeavesState ((fe.builder depth).instantiation site)
  reports : ∀ {sub : Builder} {site}, (fe.unexposedAt sub site).reports =
    (decisive? site (fe.readings sub)).elim [] fun reading => (reading.run site).reports
  taken : ∀ {sub : Builder} {site t reading}, decisive? site (fe.readings sub) = some reading →
    (fe.unexposedAt sub site).outcome = .ok t → (reading.run site).outcome = .ok (some t)
  node : ∀ {sub : Builder} {site facts}, fe.type? site.type = some facts → facts.kind = .elaborated →
    (fe.instantiationAt sub site).outcome = .ok none →
      fe.nodeAt sub site = do return some (← fe.userDefinedAt site)
  argument : ∀ {depth template type a index text facts}, fe.type? type = some facts →
    facts.argument index = some a →
    ((fe.builder depth).instantiation ⟨template, a⟩).outcome = .ok none →
      fe.argumentAt (fe.builder depth) template type index text = do
        match ← (fe.builder depth).node ⟨template, a⟩ with
        | some t => return if t.isBlankUnexposed then argumentOfText text else .type t
        | none => return argumentOfText text
  canonical : ∀ {site facts} {declared : Ty}, fe.type? site.type = some facts →
    facts.canonical ≠ site.type →
    (declared.nodeClass = .instantiation ∨ declared.nodeClass = .userDefined) →
    (fe.typeBuilder.instantiation ⟨site.cursor, facts.canonical⟩).outcome = .ok none →
      fe.canonicalAt site declared = fe.required fe.typeBuilder ⟨site.cursor, facts.canonical⟩

theorem triesSilently (fe : Frontend) : fe.TriesSilently where
  reading reading member := leavesState_of_silent (readings_silent reading member)
  instantiation := leavesState_of_silent instantiationAt_silent
  inside := leavesState_of_silent (builder_silent _)
  reports := unexposedAt_reports
  taken := unexposedAt_taken
  node := nodeAt_of_passed
  argument := argumentAt_of_passed
  canonical := canonicalAt_of_passed

/-- An instantiation with a vector as its argument, a kind of type that is warned of. -/
def vectors : Snapshot where
  cursors := #[
    { kind := .classTemplate, spelling := "Box", entity := ⟨"Box"⟩ },
    { kind := .varDecl, spelling := "box", entity := ⟨"box"⟩ }]
  types := #[
    { kind := .vector, spelling := "V" },
    { kind := .unexposed, spelling := "Box<V>", declaration := some (.afterCount 0),
      arguments := some [some (.afterCount 0)] }]

def vectorWarning : Report where
  source := reportSource
  severity := .warning
  message := "unexpected type 'Box' of kind 'Vector'"
  location := none

/-- The instantiation is no array, and the vector in it is warned of once. -/
theorem triesSilently_vectors :
    (∀ s, (Run.ofBuild (vectors.frontend.arrayAt vectors.frontend.partBuilder
      ⟨.afterCount 1, .afterCount 1⟩)).run s = .ok none s) ∧
    (vectors.frontend.unexposedAt vectors.frontend.partBuilder
      ⟨.afterCount 1, .afterCount 1⟩).reports = [vectorWarning] := by
  have silent := triesSilently vectors.frontend
  refine ⟨fun s => ?_, silent.reports.trans rfl⟩
  let array := vectors.frontend.arrayAt vectors.frontend.partBuilder
  have run : (Run.ofBuild (array ⟨.afterCount 1, .afterCount 1⟩)).run s =
      .ok none (s.noteAll []) := rfl
  have member : ⟨"array", array⟩ ∈ vectors.frontend.readings vectors.frontend.partBuilder :=
    List.mem_cons_of_mem _ List.mem_cons_self
  exact run.trans (congrArg _ (silent.reading _ member _ _ run))

end Frontend

end CxxTrees
