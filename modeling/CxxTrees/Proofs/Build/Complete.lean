import CxxTrees.Proofs.Build.Reading
import CxxTrees.Proofs.Frontend.Complete

/-!
# Builds from complete types

Nothing is built of an invalid type. In a complete frontend all other types are built, as
long as building them ends.
-/

namespace CxxTrees.Frontend
variable {fe : Frontend} {sub : Builder} {site : Site} {t : TypeHandle} {facts : TypeFacts}

/-! ### Valid handles -/

theorem valid_ok {o : Option TypeHandle} (h : fe.valid o = .ok (some t)) : o = some t := by
  cases o with
  | none => cases except_pure_ok h
  | some t' =>
    obtain ⟨facts, _, h⟩ := except_bind_ok h
    have same := except_pure_ok h
    split at same
    · cases same
    · exact same

theorem isValid_of_valid {o : Option TypeHandle} (h : fe.valid o = .ok (some t)) :
    fe.IsValid t := by
  obtain rfl := valid_ok h
  obtain ⟨facts, looked, h⟩ := except_bind_ok h
  have same := except_pure_ok h
  refine isValid_of_known (type_ok looked) fun invalid => ?_
  rw [if_pos invalid] at same
  cases same

/-- A handle of a type that is not invalid is not dropped. -/
theorem valid_ne_none {o : Option TypeHandle} (some_ : o ≠ none)
    (valid : ∀ u, o = some u → fe.IsValid u) : fe.valid o ≠ .ok none := by
  intro h
  cases o with
  | none => exact some_ rfl
  | some u =>
    obtain ⟨facts, looked, h⟩ := except_bind_ok h
    have same := except_pure_ok h
    rw [if_neg (valid u rfl facts (type_ok looked))] at same
    cases same

/-! ### Parts of complete types -/

/-- The element of an array is that of a type that is not invalid. -/
theorem isValid_of_elementAt {e : TypeHandle} (h : fe.elementAt t = .ok (some e)) :
    fe.IsValid e := by
  obtain ⟨facts, looked, h⟩ := except_bind_ok h
  obtain ⟨element, found, h⟩ := except_bind_ok h
  cases element with
  | some element =>
    obtain rfl := Option.some.inj (except_pure_ok h)
    exact isValid_of_valid found
  | none =>
    obtain ⟨facts', _, h⟩ := except_bind_ok h
    exact isValid_of_valid h

theorem Complete.valid_ne_none {o : Option TypeHandle} (complete : fe.Complete)
    (known : fe.type? t = some facts) (valid : fe.IsValid t) (some_ : o ≠ none)
    (needs : ∀ u, o = some u → facts.Needs u) : fe.valid o ≠ .ok none :=
  Frontend.valid_ne_none some_ fun u link => complete.needed known valid (needs u link)

theorem Complete.elementAt_ne_none (complete : fe.Complete) (known : fe.type? t = some facts)
    (array : facts.kind.isArray = true) : fe.elementAt t ≠ .ok none := by
  have valid : fe.IsValid t := isValid_of_known known fun invalid => by
    rw [invalid] at array
    cases array
  intro h
  obtain ⟨facts', looked, h⟩ := except_bind_ok h
  obtain rfl := Option.mem_unique known (type_ok looked)
  obtain ⟨element, found, h⟩ := except_bind_ok h
  cases element with
  | some element => cases except_pure_ok h
  | none =>
    obtain ⟨facts', looked, h⟩ := except_bind_ok h
    have known' := type_ok looked
    rcases complete.element known array known' with own | canonical
    · exact complete.valid_ne_none known valid own (fun _ => .element) found
    · have valid' := complete.needed known valid (.canonical rfl)
      exact complete.valid_ne_none known' valid' canonical (fun _ => .element) h

theorem Complete.arrayAt_ne_none (complete : fe.Complete) (known : fe.type? site.type = some facts)
    (array : facts.kind.isArray = true) : (fe.arrayAt sub site).outcome ≠ .ok none := by
  intro h
  obtain ⟨element, found, h⟩ := Build.bind_ok h
  cases element with
  | none => exact complete.elementAt_ne_none known array found
  | some element =>
    obtain ⟨_, _, h⟩ := Build.bind_ok h
    obtain ⟨_, _, h⟩ := Build.bind_ok h
    obtain ⟨_, _, h⟩ := Build.bind_ok h
    cases Build.pure_ok h

theorem Complete.functionAt_ne_none (complete : fe.Complete)
    (known : fe.type? site.type = some facts) (function : facts.kind.isFunction = true) :
    (fe.functionAt sub site).outcome ≠ .ok none := by
  have valid : fe.IsValid site.type := isValid_of_known known fun invalid => by
    rw [invalid] at function
    cases function
  have some_ : fe.valid facts.result ≠ .ok none :=
    complete.valid_ne_none known valid (complete.result known function) fun _ => .result
  intro h
  obtain ⟨facts', looked, h⟩ := Build.bind_ok h
  obtain rfl := Option.mem_unique known (type_ok looked)
  obtain ⟨result, found, h⟩ := Build.bind_ok h
  cases result with
  | none => exact some_ found
  | some result =>
    obtain ⟨_, _, h⟩ := Build.bind_ok h
    obtain ⟨_, _, h⟩ := Build.bind_ok h
    cases Build.pure_ok h

/-- In a complete frontend a type that is not invalid is built, if building it ends at all. -/
theorem Complete.builder_ne_none {depth : Nat} (complete : fe.Complete)
    (valid : fe.IsValid site.type) : ((fe.builder depth).node site).outcome ≠ .ok none := by
  induction depth generalizing site with
  | zero => nofun
  | succ depth ih =>
    intro h
    obtain ⟨facts, looked, h⟩ := Build.bind_ok h
    have known := type_ok looked
    have valid := valid facts known
    split at h
    · obtain ⟨_, _, h⟩ := Build.bind_ok h
      cases Build.pure_ok h
    · split at h
      case h_1 kind => exact valid kind
      case h_4 =>
        obtain ⟨read, _, h⟩ := Build.bind_ok h
        cases read with
        | some t => cases Build.pure_ok h
        | none =>
          obtain ⟨_, _, h⟩ := Build.bind_ok h
          cases Build.pure_ok h
      case h_8 =>
        obtain ⟨_, _, h⟩ := Build.bind_ok h
        obtain ⟨_, _, h⟩ := Build.bind_ok h
        cases Build.pure_ok h
      -- An array has an element, and what was deduced is not invalid.
      case h_11 kind | h_12 kind | h_13 kind | h_14 kind =>
        exact complete.arrayAt_ne_none known (by rw [kind]; rfl) h
      case h_15 | h_16 =>
        obtain ⟨read, _, h⟩ := Build.bind_ok h
        cases read with
        | some t => cases Build.pure_ok h
        | none => exact Build.fail_ok h
      case h_18 =>
        obtain ⟨facts', looked', h⟩ := Build.bind_ok h
        split at h
        · obtain ⟨_, _, h⟩ := Build.bind_ok h
          cases Build.pure_ok h
        · exact ih (complete.valid known valid (.canonical rfl)) h
      case h_19 | h_20 | h_21 | h_22 | h_23 =>
        obtain ⟨_, _, h⟩ := Build.bind_ok h
        obtain ⟨_, _, h⟩ := Build.bind_ok h
        cases Build.pure_ok h
      all_goals
        obtain ⟨_, _, h⟩ := Build.bind_ok h
        cases Build.pure_ok h

/-- Nothing is built of an invalid type. -/
theorem isValid_of_builder {depth : Nat} {built : Ty}
    (h : ((fe.builder depth).node site).outcome = .ok (some built)) : fe.IsValid site.type := by
  cases depth with
  | zero => cases h
  | succ depth =>
    obtain ⟨facts, looked, h⟩ := Build.bind_ok h
    refine isValid_of_known (type_ok looked) fun invalid => ?_
    simp only [invalid, TypeKind.builtin?] at h
    cases Build.pure_ok h

end CxxTrees.Frontend
