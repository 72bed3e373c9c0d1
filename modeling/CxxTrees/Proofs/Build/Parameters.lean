import CxxTrees.Build.Parameter
import CxxTrees.Proofs.Stops

/-!
# Parameters by name

The children of a cursor are searched for the only one that is a parameter of a name. The
search comes to the list of all that are (`onlyAmong_eq`): it has an answer where the list has
at most one entry.
-/

namespace CxxTrees.Frontend
variable {fe : Frontend} {isOne : Cursor → Except Stop Bool} {P : Stop → Prop}

/-- The cursor of a list that has at most one, else a fault. -/
def single (fault : Fault) : List Cursor → Except Stop (Option Cursor)
  | [] => .ok none
  | [p] => .ok (some p)
  | _ :: _ :: _ => .error (.fault fault)

section Among
variable {fault : Fault} {found : Option Cursor} {cs : List Cursor}

theorem onlyAmong_cons {c : Cursor} {one : Bool} (decided : isOne c = .ok one) :
    onlyAmong isOne fault found (c :: cs) =
      if !one then onlyAmong isOne fault found cs
      else if found.isSome then .error (.fault fault)
      else onlyAmong isOne fault (some c) cs := by
  rw [onlyAmong, decided]
  rfl

theorem onlyAmong_eq {p : Cursor → Bool} (decided : ∀ c ∈ cs, isOne c = .ok (p c)) :
    onlyAmong isOne fault found cs = single fault (found.toList ++ cs.filter p) := by
  -- What was found before counts as the first of the list.
  induction cs generalizing found with
  | nil => cases found <;> rfl
  | cons c cs ih =>
    have ih (found : Option Cursor) :
        onlyAmong isOne fault found cs = single fault (found.toList ++ cs.filter p) :=
      ih fun c member => decided c (List.mem_cons_of_mem _ member)
    rw [onlyAmong_cons (decided c List.mem_cons_self), List.filter_cons]
    cases p c with
    | false => exact ih found
    | true =>
      cases found with
      | none => exact ih (some c)
      | some before => rfl

theorem onlyAmong_stopsBy (decided : ∀ c ∈ cs, StopsBy P (isOne c)) (admitted : P (.fault fault)) :
    StopsBy P (onlyAmong isOne fault found cs) := by
  induction cs generalizing found with
  | nil => exact stopsBy_ok found
  | cons c cs ih =>
    have rest (found : Option Cursor) : StopsBy P (onlyAmong isOne fault found cs) :=
      ih fun c member => decided c (List.mem_cons_of_mem _ member)
    refine stopsBy_bind (decided c List.mem_cons_self) fun one _ => ?_
    split
    · exact rest found
    · split
      · exact stopsBy_error admitted
      · exact rest (some c)

/-- The cursor that is found is in the list, unless it was found before. -/
theorem onlyAmong_ok {p : Cursor} (h : onlyAmong isOne fault found cs = .ok (some p)) :
    found = some p ∨ p ∈ cs := by
  induction cs generalizing found with
  | nil => exact .inl (Except.ok.inj h)
  | cons c cs ih =>
    obtain ⟨one, _, h⟩ := except_bind_ok h
    split at h
    · exact (ih h).imp_right (List.mem_cons_of_mem c)
    · split at h
      · cases h
      · rcases ih h with same | later
        · obtain rfl := Option.some.inj same
          exact .inr List.mem_cons_self
        · exact .inr (List.mem_cons_of_mem c later)

end Among

/-! ### Among the children of a cursor -/

section Child
variable {fault : String → Fault} {c : Cursor}

theorem onlyChild_eq {facts : CursorFacts} {p : Cursor → Bool} (known : fe.cursor? c = some facts)
    (decided : ∀ child ∈ facts.children, isOne child = .ok (p child)) :
    fe.onlyChild isOne fault c = single (fault facts.spelling) (facts.children.filter p) := by
  have searched := @onlyAmong_eq _ (fault facts.spelling) none _ _ decided
  rw [onlyChild, cursor_of_known known]
  exact searched

theorem onlyChild_stopsBy (around : StopsBy P (fe.cursor c))
    (decided : ∀ facts, fe.cursor? c = some facts → ∀ child ∈ facts.children, StopsBy P (isOne child))
    (admitted : ∀ text, P (.fault (fault text))) : StopsBy P (fe.onlyChild isOne fault c) :=
  stopsBy_bind around fun facts looked =>
    onlyAmong_stopsBy (decided facts (cursor_ok looked)) (admitted facts.spelling)

theorem onlyChild_ok {p : Cursor} (h : fe.onlyChild isOne fault c = .ok (some p)) :
    ∃ facts, fe.cursor? c = some facts ∧ p ∈ facts.children := by
  obtain ⟨facts, looked, h⟩ := except_bind_ok h
  rcases onlyAmong_ok h with before | member
  · cases before
  · exact ⟨facts, cursor_ok looked, member⟩

end Child

end CxxTrees.Frontend
