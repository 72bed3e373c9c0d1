import CxxTrees.Build.Type
import CxxTrees.Proofs.Build.Instantiation

/-!
# Readings of a type

What each reading of a type answers, and which of them applies where the
frontend leaves a type to its text.
-/

namespace CxxTrees

namespace Frontend
variable {fe : Frontend} {sub : Builder} {site : Site} {t : Ty} {answer : Option Ty}

/-! ### Parts -/

theorem required_ok {sub : Builder} (h : (fe.required sub site).outcome = .ok t) :
    (sub.node site).outcome = .ok (some t) := by
  unfold required at h
  obtain ⟨answer, built, h⟩ := Build.bind_ok h
  cases answer with
  | some t' => rwa [← Build.pure_ok h]
  | none =>
    obtain ⟨spelling, _, h⟩ := Build.bind_ok h
    exact absurd h Build.fail_ok

/-! ### Single readings -/

theorem userDefinedAt_plain (h : fe.userDefinedAt site = .ok t) : t.IsPlain := by
  unfold userDefinedAt at h
  obtain ⟨⟨cv, name⟩, _, h⟩ := except_bind_ok h
  obtain ⟨facts, _, h⟩ := except_bind_ok h
  split at h
  · obtain ⟨spelling, _, h⟩ := except_bind_ok h
    rw [← except_pure_ok h]
    exact Ty.isPlain_ofNode rfl
  · obtain ⟨declared, _, h⟩ := except_bind_ok h
    rw [← except_pure_ok h]
    exact Ty.isPlain_qualify rfl

def HasResult (fe : Frontend) (t : TypeHandle) : Prop :=
  ∃ facts result, fe.type? t = some facts ∧ fe.valid facts.result = .ok (some result)

def HasElement (fe : Frontend) (t : TypeHandle) : Prop :=
  ∃ element, fe.elementAt t = .ok (some element)

def SpellsDecltype (fe : Frontend) (site : Site) : Prop := ∃ t, fe.decltypeAt site = .ok (some t)

/-- Exactly where it applies, a reading gives an answer, and a plain one. -/
def PlainWhere (applies : Prop) (answer : Option Ty) : Prop :=
  applies ∧ (∃ t, answer = some t ∧ t.IsPlain) ∨ ¬ applies ∧ answer = none

theorem functionAt_ok (h : (fe.functionAt sub site).outcome = .ok answer) :
    PlainWhere (fe.HasResult site.type) answer := by
  unfold functionAt at h
  obtain ⟨facts, looked, h⟩ := Build.bind_ok h
  have known := type_ok looked
  obtain ⟨result, valid, h⟩ := Build.bind_ok h
  rw [Build.outcome_lift] at valid
  cases result with
  | none =>
    refine .inr ⟨?_, (Build.pure_ok h).symm⟩
    intro result
    obtain ⟨facts', result, known', valid'⟩ := result
    obtain rfl := Option.mem_unique known known'
    cases valid.symm.trans valid'
  | some result =>
    obtain ⟨built, _, h⟩ := Build.bind_ok h
    obtain ⟨⟨parameters, isVariadic⟩, _, h⟩ := Build.bind_ok h
    exact .inl ⟨⟨facts, result, known, valid⟩, _, (Build.pure_ok h).symm, Ty.isPlain_ofNode rfl⟩

theorem arrayAt_ok (h : (fe.arrayAt sub site).outcome = .ok answer) :
    PlainWhere (fe.HasElement site.type) answer := by
  unfold arrayAt at h
  obtain ⟨element, found, h⟩ := Build.bind_ok h
  rw [Build.outcome_lift] at found
  cases element with
  | none =>
    refine .inr ⟨?_, (Build.pure_ok h).symm⟩
    intro element
    obtain ⟨element, found'⟩ := element
    cases found.symm.trans found'
  | some element =>
    obtain ⟨facts, _, h⟩ := Build.bind_ok h
    obtain ⟨size, _, h⟩ := Build.bind_ok h
    obtain ⟨built, _, h⟩ := Build.bind_ok h
    exact .inl ⟨⟨element, found⟩, _, (Build.pure_ok h).symm, Ty.isPlain_ofNode rfl⟩

theorem decltypeAt_plain (h : fe.decltypeAt site = .ok (some t)) : t.IsPlain := by
  unfold decltypeAt at h
  obtain ⟨facts, _, h⟩ := except_bind_ok h
  split at h
  · cases except_pure_ok h
  · obtain ⟨⟨cv, name⟩, _, h⟩ := except_bind_ok h
    simp only at h
    split at h
    · cases h
    · cases except_pure_ok h
    · obtain rfl := Option.some.inj (except_pure_ok h)
      exact Ty.isPlain_qualify rfl

theorem decltypeAt_ok (h : fe.decltypeAt site = .ok answer) :
    PlainWhere (fe.SpellsDecltype site) answer := by
  cases answer with
  | some t => exact .inl ⟨⟨t, h⟩, t, rfl, decltypeAt_plain h⟩
  | none =>
    refine .inr ⟨?_, rfl⟩
    rintro ⟨t, h'⟩
    cases h.symm.trans h'

theorem parameterOf_node {template : Cursor} (h : fe.parameterOf site template = .ok (some t)) :
    ∃ parameter cv, t = (Ty.ofNode (.templateParameter parameter)).qualify cv := by
  unfold parameterOf at h
  obtain ⟨⟨cv, name⟩, _, h⟩ := except_bind_ok h
  obtain ⟨parameter, _, h⟩ := except_bind_ok h
  cases parameter with
  | none => cases except_pure_ok h
  | some parameter =>
    obtain ⟨declared, _, h⟩ := except_bind_ok h
    exact ⟨_, cv, (Option.some.inj (except_pure_ok h)).symm⟩

theorem parameterWithin_node {type : TypeHandle} {limit : Nat} {scope : Cursor}
    (h : fe.parameterWithin type limit scope = .ok (some t)) :
    ∃ parameter cv, t = (Ty.ofNode (.templateParameter parameter)).qualify cv := by
  induction limit generalizing scope with
  | zero => cases h
  | succ limit ih =>
    unfold parameterWithin at h
    obtain ⟨template, _, h⟩ := except_bind_ok h
    cases template with
    | none => cases except_pure_ok h
    | some template =>
      obtain ⟨found, looked, h⟩ := except_bind_ok h
      cases found with
      | some parameter =>
        obtain rfl := Option.some.inj (except_pure_ok h)
        exact parameterOf_node looked
      | none =>
        obtain ⟨facts, _, h⟩ := except_bind_ok h
        split at h
        · cases except_pure_ok h
        · exact ih h

theorem parameterAt_some (h : fe.parameterAt site = .ok (some t)) :
    t.canonical = none ∧ t.unqualified.nodeClass = .templateParameter := by
  obtain ⟨parameter, cv, rfl⟩ := parameterWithin_node h
  rw [Ty.unqualified_qualify (by simp [Node.nodeClass])]
  exact ⟨Ty.canonical_qualify, rfl⟩

/-! ### Readings in order -/

/-- One of the readings that come before the instantiation applies. -/
def ReadsOtherwise (fe : Frontend) (site : Site) : Prop :=
  fe.HasResult site.type ∨ fe.HasElement site.type ∨ fe.SpellsDecltype site

/-- The reading that a type's text is taken by. -/
inductive ReadsText (fe : Frontend) (sub : Builder) (site : Site) : Ty → Prop where
  | other {t : Ty} (reads : fe.ReadsOtherwise site) (plain : t.IsPlain) : ReadsText fe sub site t
  | instantiation {t : Ty} (only : ¬ fe.ReadsOtherwise site) (spelled : fe.SpellsInstantiation site)
      (built : (fe.instantiationAt sub site).outcome = .ok (some t)) : ReadsText fe sub site t
  | parameter {t : Ty} (only : ¬ fe.ReadsOtherwise site) (unspelled : ¬ fe.SpellsInstantiation site)
      (found : fe.parameterAt site = .ok (some t)) : ReadsText fe sub site t
  | text {spelling : List Char} (only : ¬ fe.ReadsOtherwise site)
      (unspelled : ¬ fe.SpellsInstantiation site) (unknown : fe.parameterAt site = .ok none)
      (spelled : fe.spellingAt site = .ok spelling) :
      ReadsText fe sub site (.unexposed (String.ofList spelling))

theorem firstReading_ok {note : String → Build Unit} {reading : Reading Build Site Ty}
    {readings : List (Reading Build Site Ty)}
    (h : (firstReading note site (reading :: readings)).outcome = .ok answer) :
    ∃ first, (reading.run site).outcome = .ok first ∧
      ((∃ t, first = some t ∧ answer = some t) ∨
        first = none ∧ (firstReading note site readings).outcome = .ok answer) := by
  unfold firstReading at h
  obtain ⟨first, run, h⟩ := Build.bind_ok h
  refine ⟨first, run, ?_⟩
  cases first with
  | some t =>
    obtain ⟨_, _, h⟩ := Build.bind_ok h
    exact .inl ⟨t, rfl, (Build.pure_ok h).symm⟩
  | none => exact .inr ⟨rfl, h⟩

/-- What is read was read by one of the readings. -/
theorem firstReading_some {note : String → Build Unit} {readings : List (Reading Build Site Ty)}
    (h : (firstReading note site readings).outcome = .ok (some t)) :
    ∃ reading ∈ readings, (reading.run site).outcome = .ok (some t) := by
  induction readings with
  | nil => cases Build.pure_ok h
  | cons reading readings ih =>
    obtain ⟨first, run, ⟨t', rfl, same⟩ | ⟨_, rest⟩⟩ := firstReading_ok h
    · obtain rfl := Option.some.inj same
      exact ⟨reading, List.mem_cons_self, run⟩
    · obtain ⟨later, member, run⟩ := ih rest
      exact ⟨later, List.mem_cons_of_mem reading member, run⟩

/-- A plain reading that applies is taken, else the search goes on. -/
theorem firstReading_plain {note : String → Build Unit} {reading : Reading Build Site Ty}
    {readings : List (Reading Build Site Ty)} {applies : Prop}
    (plain : ∀ first, (reading.run site).outcome = .ok first → PlainWhere applies first)
    (h : (firstReading note site (reading :: readings)).outcome = .ok answer) :
    applies ∧ (∃ t, answer = some t ∧ t.IsPlain) ∨
      ¬ applies ∧ (firstReading note site readings).outcome = .ok answer := by
  obtain ⟨first, run, taken⟩ := firstReading_ok h
  rcases plain first run with ⟨here, t, rfl, plain⟩ | ⟨absent, rfl⟩
  · rcases taken with ⟨t', same, rfl⟩ | ⟨none, _⟩
    · obtain rfl := Option.some.inj same
      exact .inl ⟨here, t, rfl, plain⟩
    · cases none
  · rcases taken with ⟨t', none, _⟩ | ⟨_, rest⟩
    · cases none
    · exact .inr ⟨absent, rest⟩

theorem unexposedAt_ok (h : (fe.unexposedAt sub site).outcome = .ok t) :
    fe.ReadsText sub site t := by
  unfold unexposedAt at h
  obtain ⟨answer, read, h⟩ := Build.bind_ok h
  have finish : ∀ t', answer = some t' → t' = t := by
    rintro t' rfl
    exact Build.pure_ok h
  rcases firstReading_plain (fun _ => functionAt_ok) read with ⟨here, t', rfl, plain⟩ | ⟨no, read⟩
  · exact finish t' rfl ▸ .other (.inl here) plain
  rcases firstReading_plain (fun _ => arrayAt_ok) read with ⟨here, t', rfl, plain⟩ | ⟨no', read⟩
  · exact finish t' rfl ▸ .other (.inr (.inl here)) plain
  rcases firstReading_plain (fun _ => decltypeAt_ok) read with ⟨here, t', rfl, plain⟩ | ⟨no'', read⟩
  · exact finish t' rfl ▸ .other (.inr (.inr here)) plain
  have only : ¬ fe.ReadsOtherwise site := by
    intro otherwise
    rcases otherwise with here | here | here
    · exact no here
    · exact no' here
    · exact no'' here
  obtain ⟨first, built, taken⟩ := firstReading_ok read
  rcases instantiationAt_ok built with ⟨rfl, unspelled⟩ | ⟨template, _, _, _, spelled, _, rfl⟩
  · rcases taken with ⟨_, none, _⟩ | ⟨_, read⟩
    · cases none
    obtain ⟨first, found, taken⟩ := firstReading_ok read
    rcases taken with ⟨t', rfl, rfl⟩ | ⟨rfl, none⟩
    · exact finish t' rfl ▸ .parameter only unspelled found
    · obtain rfl := Build.pure_ok none
      obtain ⟨spelling, spelled, h⟩ := Build.bind_ok h
      rw [← Build.pure_ok h]
      exact .text only unspelled found spelled
  · rcases taken with ⟨t', same, rfl⟩ | ⟨none, _⟩
    · obtain rfl := Option.some.inj same
      exact finish _ rfl ▸ .instantiation only ⟨template, spelled⟩ built
    · cases none

end Frontend

end CxxTrees
