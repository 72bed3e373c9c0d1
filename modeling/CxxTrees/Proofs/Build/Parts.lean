import CxxTrees.Build.Type
import CxxTrees.Proofs.Outcome
import CxxTrees.Proofs.Tree.Qualified

/-!
# Builds that come through

Where the links of a type lead to valid types and these are built, the parts of
the type are built too, and no event happens on the way.
-/

namespace CxxTrees.Frontend
variable {fe : Frontend} {sub : Builder} {site : Site} {facts : TypeFacts} {h p : TypeHandle}
  {t : Ty}

/-! ### Look-ups that succeed -/

/-- A template is the nearest one around itself. -/
theorem templateAround_of_templated {c : Cursor} {declared : CursorFacts}
    (known : fe.cursor? c = some declared) (templated : declared.kind.isDirectlyTemplated = true) :
    fe.templateAround c = .ok (some c) := by
  unfold templateAround climbLimit templateAroundWithin
  simp only [cursor_of_known known, bind, Except.bind, templated]
  rfl

theorem valid_of_known (known : fe.type? h = some facts) (valid : facts.kind ≠ .invalid) :
    fe.valid (some h) = .ok (some h) := by
  rw [Frontend.valid, type_of_known known]
  exact congrArg Except.ok (if_neg valid)

theorem look_bind {x : Except Stop α} {a : α} (h : x = .ok a) (f : α → Except Stop β) :
    x >>= f = f a := by
  rw [h]
  rfl

theorem spellingAt_eq {isLocal : Bool} (known : fe.type? site.type = some facts)
    (seen : fe.isLocalTypedef site = .ok isLocal) :
    fe.spellingAt site = .ok
      (if isLocal then Spelling.unscoped facts.spelling.toList else facts.spelling.toList) := by
  rw [spellingAt, look_bind (type_of_known known), look_bind seen]
  rfl

theorem spellingAt_of_known (known : fe.type? site.type = some facts)
    (other : facts.kind ≠ .typedef) : fe.spellingAt site = .ok facts.spelling.toList := by
  have foreign : fe.isLocalTypedef site = .ok false := by
    rw [isLocalTypedef, look_bind (type_of_known known)]
    exact if_pos other
  exact spellingAt_eq known foreign

theorem spellingAt_of_text {text : List Char} (known : fe.type? site.type = some facts)
    (other : facts.kind ≠ .typedef) (spelled : facts.spelling = String.ofList text) :
    fe.spellingAt site = .ok text := by
  rw [spellingAt_of_known known other, spelled, String.toList_ofList]

theorem lift_bind_of_ok {x : Except Stop α} {a : α} (h : x = .ok a) (f : α → Build β) :
    liftM x >>= f = f a := by
  subst h
  rw [Build.bind_of_ok rfl]
  rfl

theorem required_of_node (built : sub.node site = pure (some t)) :
    fe.required sub site = pure t := by
  rw [required, built, pure_bind]

/-! ### Parts that are built -/

/-- Builds the types inside of a whole one. -/
def partBuilder (fe : Frontend) : Builder := fe.builder (fe.typeLimit - 1)

theorem typeBuilder_eq (fe : Frontend) : fe.typeBuilder =
    { node site := fe.nodeAt fe.partBuilder site
      instantiation site := fe.instantiationAt fe.partBuilder site } := by
  have positive : 0 < fe.typeLimit :=
    Nat.mul_pos (Nat.mul_pos (by decide) (Nat.succ_pos _)) (Nat.succ_pos _)
  obtain ⟨depth, deep⟩ := Nat.exists_eq_add_one.mpr positive
  rw [typeBuilder, partBuilder, deep]
  rfl

theorem typeBuilder_node (site : Site) :
    fe.typeBuilder.node site = fe.nodeAt fe.partBuilder site := by
  rw [typeBuilder_eq]

theorem typeBuilder_instantiation (site : Site) :
    fe.typeBuilder.instantiation site = fe.instantiationAt fe.partBuilder site := by
  rw [typeBuilder_eq]

/-- A type inside of the one at a site, which is built there as `t`. -/
structure BuildsPart (fe : Frontend) (sub : Builder) (c : Cursor) (p : TypeHandle) (t : Ty) :
    Prop where
  valid : fe.valid (some p) = .ok (some p)
  built : fe.required sub ⟨c, p⟩ = pure t

variable {c : Cursor}

theorem pointeeAt_of_part (known : fe.type? h = some facts) (link : facts.pointee = some p)
    (part : fe.BuildsPart sub c p t) : fe.pointeeAt sub ⟨c, h⟩ = pure t := by
  have found : fe.valid facts.pointee = .ok (some p) := by
    rw [link]
    exact part.valid
  unfold pointeeAt
  rw [lift_bind_of_ok (type_of_known known), lift_bind_of_ok found]
  exact part.built

theorem parametersFrom_of_parts {index : Nat} {parameters : List (TypeHandle × Ty)}
    (place : ∀ i, facts.parameter (index + i) = (parameters.map Prod.fst)[i]?)
    (each : ∀ p ∈ parameters, fe.BuildsPart sub c p.1 p.2) :
    fe.parametersFrom sub ⟨c, h⟩ facts index parameters.length =
      pure (parameters.map Prod.snd) := by
  induction parameters generalizing index with
  | nil => rfl
  | cons p parameters ih =>
    have first : facts.parameter index = some p.1 := place 0
    have rest : fe.parametersFrom sub ⟨c, h⟩ facts (index + 1) parameters.length =
        pure (parameters.map Prod.snd) := by
      refine ih (fun i => ?_) fun q member => each q (List.mem_cons_of_mem p member)
      rw [Nat.add_assoc, Nat.add_comm 1 i]
      exact place (i + 1)
    unfold parametersFrom
    simp only [List.length_cons, first]
    rw [(each p List.mem_cons_self).built, pure_bind, rest, pure_bind]
    rfl

/-! ### Whole types -/

section Whole
variable {declared : Ty}

/-- The canonical form of a type that cannot be an instantiation is what its canonical type is
built as. -/
theorem canonicalAt_outcome (known : fe.type? site.type = some facts)
    (other : declared.nodeClass ≠ .instantiation) (other' : declared.nodeClass ≠ .userDefined) :
    (fe.canonicalAt site declared).outcome =
      if facts.canonical = site.type then .ok declared
      else (fe.required fe.typeBuilder ⟨site.cursor, facts.canonical⟩).outcome := by
  unfold canonicalAt canonicalWith
  rw [lift_bind_of_ok (type_of_known known)]
  by_cases same : facts.canonical = site.type
  · rw [if_pos same, if_pos same]
    rfl
  · rw [if_neg same, if_neg same]
    cases kind : declared.nodeClass <;>
      first | rfl | exact absurd kind other | exact absurd kind other'

/-- A type is built around what it is declared as, unless that is an instantiation and its
canonical form is not. -/
theorem typeAt_eq (built : (fe.required fe.typeBuilder site).outcome = .ok declared)
    (bare : declared.canonical = none) :
    (fe.typeAt site).outcome = (fe.canonicalAt site declared).outcome >>= fun form =>
      if declared.nodeClass = .instantiation ∧ form.nodeClass ≠ .instantiation then do
        throw (.fault (.canonicalKindMismatch (← fe.rawSpelling site.type) form.nodeClass))
      else .ok (.mk declared.node (some form)) := by
  unfold typeAt typeWith
  rw [Build.outcome_bind, look_bind built, if_neg (by rw [bare]; nofun), Build.outcome_bind]
  congr 1
  funext form
  split
  · rw [Build.outcome_bind]
    rfl
  · rw [Ty.withCanonical_ok bare]
    rfl

theorem typeAt_outcome (built : (fe.required fe.typeBuilder site).outcome = .ok declared)
    (bare : declared.canonical = none) (other : declared.nodeClass ≠ .instantiation) :
    (fe.typeAt site).outcome =
      (fe.canonicalAt site declared).outcome.map fun form => .mk declared.node (some form) := by
  rw [typeAt_eq built bare]
  cases (fe.canonicalAt site declared).outcome with
  | error stop => rfl
  | ok form => exact if_neg fun mismatch => other mismatch.1

/-- A type that cannot be an instantiation is built around what it is declared as, if its
canonical form is built too. -/
theorem exists_typeAt (known : fe.type? site.type = some facts)
    (built : (fe.required fe.typeBuilder site).outcome = .ok declared)
    (bare : declared.canonical = none)
    (other : declared.nodeClass ≠ .instantiation ∧ declared.nodeClass ≠ .userDefined)
    (canonical : facts.canonical = site.type ∨ ∃ canonical,
      (fe.required fe.typeBuilder ⟨site.cursor, facts.canonical⟩).outcome = .ok canonical) :
    ∃ canonical, (fe.typeAt site).outcome = .ok (.mk declared.node (some canonical)) := by
  have form : ∃ canonical, (fe.canonicalAt site declared).outcome = .ok canonical := by
    rw [canonicalAt_outcome known other.1 other.2]
    by_cases same : facts.canonical = site.type
    · exact ⟨declared, if_pos same⟩
    · rw [if_neg same]
      exact canonical.resolve_left same
  obtain ⟨canonical, form⟩ := form
  refine ⟨canonical, ?_⟩
  rw [typeAt_outcome built bare other.1, form]
  rfl

end Whole

end CxxTrees.Frontend
