import CxxTrees.Build.Instantiation
import CxxTrees.Proofs.Outcome
import CxxTrees.Proofs.Tree.Qualified

/-!
# Instantiations as they are spelled

Whether a type reads as an instantiation is decided by its spelling and by what
the name refers to, before any argument is built.
-/

namespace CxxTrees.Frontend
variable {fe : Frontend} {sub : Builder} {site : Site} {template : Cursor}

/-- The type at a site is spelled as an instantiation of `template`. -/
def Instantiates (fe : Frontend) (site : Site) (template : Cursor) : Prop :=
  ∃ cv spelling name tail body, fe.leafAt site = .ok (cv, spelling) ∧
    splitName spelling = some (name, tail) ∧ fe.templateAt site name = .ok (some template) ∧
    withoutClosing tail = some body

def SpellsInstantiation (fe : Frontend) (site : Site) : Prop :=
  ∃ template, fe.Instantiates site template

/-- The arguments of an instantiation were built one by one, or are not known apart. -/
def BuildsArguments (fe : Frontend) (sub : Builder) (site : Site) (template : Cursor) :
    Arguments → Prop
  | .exposed list => ∃ texts, (fe.argumentsFrom sub template site.type 0 texts).outcome = .ok list
  | .raw _ => True

/-- Each argument is built from its own text, at its own index. -/
theorem argumentsFrom_ok {type : TypeHandle} {index : Nat} {texts : List (List Char)}
    {list : List Argument}
    (h : (fe.argumentsFrom sub template type index texts).outcome = .ok list) :
    list.length = texts.length ∧ ∀ i argument, list[i]? = some argument → ∃ text,
      texts[i]? = some text ∧
        (fe.argumentAt sub template type (index + i) text).outcome = .ok argument := by
  induction texts generalizing index list with
  | nil =>
    obtain rfl := Build.pure_ok h
    exact ⟨rfl, fun i argument place => by cases place⟩
  | cons text texts ih =>
    obtain ⟨first, built, h⟩ := Build.bind_ok h
    obtain ⟨rest, built', h⟩ := Build.bind_ok h
    obtain rfl := Build.pure_ok h
    obtain ⟨count, each⟩ := ih built'
    refine ⟨by rw [List.length_cons, List.length_cons, count], fun i argument place => ?_⟩
    cases i with
    | zero =>
      obtain rfl := Option.some.inj place
      exact ⟨text, rfl, built⟩
    | succ i =>
      obtain ⟨text', member, built⟩ := each i argument place
      exact ⟨text', member, by rwa [Nat.add_right_comm] at built⟩

theorem instantiationAt_ok {answer : Option Ty}
    (h : (fe.instantiationAt sub site).outcome = .ok answer) :
    answer = none ∧ ¬ fe.SpellsInstantiation site ∨
      ∃ template declaration arguments cv, fe.Instantiates site template ∧
        fe.BuildsArguments sub site template arguments ∧
        answer = some ((Ty.ofNode (.instantiation declaration arguments)).qualify cv) := by
  unfold instantiationAt at h
  obtain ⟨⟨cv, spelling⟩, spelled, h⟩ := Build.bind_ok h
  rw [Build.outcome_lift] at spelled
  have unspelled : (∀ name tail template body, splitName spelling = some (name, tail) →
      fe.templateAt site name = .ok (some template) → withoutClosing tail ≠ some body) →
      ¬ fe.SpellsInstantiation site := by
    rintro none ⟨template, cv', spelling', name, tail, body, spelled', split, found, closed⟩
    cases spelled.symm.trans spelled'
    exact none name tail template body split found closed
  cases split : splitName spelling with
  | none =>
    simp only [split] at h
    rw [← Build.pure_ok h]
    exact .inl ⟨rfl, unspelled (by simp [split])⟩
  | some parts =>
    obtain ⟨name, tail⟩ := parts
    simp only [split] at h
    obtain ⟨found, looked, h⟩ := Build.bind_ok h
    rw [Build.outcome_lift] at looked
    cases found with
    | none =>
      rw [← Build.pure_ok h]
      refine .inl ⟨rfl, unspelled fun name' tail' template body split' found => ?_⟩
      cases split.symm.trans split'
      cases looked.symm.trans found
    | some template =>
      cases closed : withoutClosing tail with
      | none =>
        simp only [closed] at h
        rw [← Build.pure_ok h]
        refine .inl ⟨rfl, unspelled fun name' tail' template body split' _ closed' => ?_⟩
        cases split.symm.trans split'
        cases closed.symm.trans closed'
      | some body =>
        simp only [closed] at h
        have spells : fe.Instantiates site template :=
          ⟨cv, spelling, name, tail, body, spelled, split, looked, closed⟩
        obtain ⟨facts, _, h⟩ := Build.bind_ok h
        split at h
        · obtain ⟨list, built, h⟩ := Build.bind_ok h
          obtain ⟨arguments, exposed, h⟩ := Build.bind_ok h
          obtain rfl := Build.pure_ok exposed
          obtain ⟨_, _, h⟩ := Build.bind_ok h
          rw [← Build.pure_ok h]
          exact .inr ⟨template, _, .exposed list, cv, spells, ⟨_, built⟩, rfl⟩
        · obtain ⟨arguments, raw, h⟩ := Build.bind_ok h
          obtain rfl := Build.pure_ok raw
          obtain ⟨_, _, h⟩ := Build.bind_ok h
          rw [← Build.pure_ok h]
          exact .inr ⟨template, _, .raw _, cv, spells, trivial, rfl⟩

theorem instantiationAt_some {t : Ty} (h : (fe.instantiationAt sub site).outcome = .ok (some t)) :
    fe.SpellsInstantiation site ∧ t.canonical = none ∧
      t.unqualified.nodeClass = .instantiation := by
  rcases instantiationAt_ok h with ⟨none, _⟩ | ⟨template, _, _, _, spelled, _, same⟩
  · cases none
  · obtain rfl := Option.some.inj same
    rw [Ty.unqualified_qualify (by simp [Node.nodeClass])]
    exact ⟨⟨template, spelled⟩, Ty.canonical_qualify, rfl⟩

theorem instantiationAt_none (h : (fe.instantiationAt sub site).outcome = .ok none) :
    ¬ fe.SpellsInstantiation site := by
  rcases instantiationAt_ok h with ⟨_, unspelled⟩ | ⟨_, _, _, _, _, _, some⟩
  · exact unspelled
  · cases some

end CxxTrees.Frontend
