import Mathlib.Data.List.Basic
import Mathlib.Data.List.Induction
import CxxTrees.Proofs.Spelling.Bound

/-!
# The dimensions of an array

A text ends in the dimensions of an array if it has bounds in brackets behind a base that
does not end in one, with every bracket inside of a bound paired. There is at most one way
to divide a text so, and reading it backwards finds it: `boundOf_dimensions`.
-/

namespace CxxTrees.Spelling
open Text
variable {s t acc rest base base' : List Char} {bounds bounds' : List (List Char)} {depth : Nat}

/-! ### Balanced text -/

/-- Text in which square brackets are paired. -/
inductive Balanced : List Char → Prop where
  | nil : Balanced []
  | plain {c : Char} {s : List Char} (opening : c ≠ '[') (closing : c ≠ ']') (rest : Balanced s) :
    Balanced (c :: s)
  | nested {inner rest : List Char} (inside : Balanced inner) (behind : Balanced rest) :
    Balanced ('[' :: (inner ++ ']' :: rest))

theorem bracket_cases (c : Char) : c = '[' ∨ c = ']' ∨ c ≠ '[' ∧ c ≠ ']' := by
  by_cases opening : c = '['
  · exact .inl opening
  · by_cases closing : c = ']'
    · exact .inr (.inl closing)
    · exact .inr (.inr ⟨opening, closing⟩)

theorem closes_opening : closes depth ('[' :: s) = closes (depth + 1) s := rfl

theorem closes_closing : closes (depth + 1) (']' :: s) = closes depth s := by simp [closes]

theorem exists_depth_of_closing (closed : closes depth (']' :: s) = true) :
    ∃ inner, depth = inner + 1 ∧ closes inner s = true := by
  cases depth with
  | zero => cases closed
  | succ inner => exact ⟨inner, rfl, closes_closing.symm.trans closed⟩

theorem closes_other {c : Char} (opening : c ≠ '[') (closing : c ≠ ']') :
    closes depth (c :: s) = closes depth s := by
  rw [closes, if_neg opening, if_neg closing]

/-- Balanced text leaves as many brackets open as there are in front of it. -/
theorem closes_append (balanced : Balanced s) (depth : Nat) (t : List Char) :
    closes depth (s ++ t) = closes depth t := by
  induction balanced generalizing depth t with
  | nil => rfl
  | plain opening closing _ ih => rw [List.cons_append, closes_other opening closing, ih]
  | nested _ _ insideIh behindIh =>
    rw [List.cons_append, closes_opening, List.append_assoc, insideIh, List.cons_append,
      closes_closing, behindIh]

/-- Text that closes a bracket in front of it is balanced up to there. -/
theorem exists_closing {depth : Nat} {s : List Char} (closed : closes (depth + 1) s = true) :
    ∃ inner rest, s = inner ++ ']' :: rest ∧ Balanced inner ∧ closes depth rest = true := by
  cases s with
  | nil => cases closed
  | cons c s =>
    rcases bracket_cases c with rfl | rfl | ⟨opening, closing⟩
    · rw [closes_opening] at closed
      -- The bracket that is opened here is closed first, and the one in front behind that.
      obtain ⟨inner, behind, same, inside, closed'⟩ := exists_closing closed
      obtain ⟨more, rest, same', between, closed⟩ := exists_closing closed'
      exact ⟨'[' :: (inner ++ ']' :: more), rest, by simp [same, same'], .nested inside between,
        closed⟩
    · rw [closes_closing] at closed
      exact ⟨[], s, rfl, .nil, closed⟩
    · rw [closes_other opening closing] at closed
      obtain ⟨inner, rest, same, inside, closed⟩ := exists_closing closed
      exact ⟨c :: inner, rest, by rw [same]; rfl, .plain opening closing inside, closed⟩
termination_by s.length

theorem balanced_of_closes {s : List Char} (closed : closes 0 s = true) : Balanced s := by
  cases s with
  | nil => exact .nil
  | cons c s =>
    rcases bracket_cases c with rfl | rfl | ⟨opening, closing⟩
    · rw [closes_opening] at closed
      obtain ⟨inner, rest, same, inside, closed⟩ := exists_closing closed
      rw [same]
      exact .nested inside (balanced_of_closes closed)
    · cases closed
    · rw [closes_other opening closing] at closed
      exact .plain opening closing (balanced_of_closes closed)
termination_by s.length

theorem balanced_iff_closes : Balanced s ↔ closes 0 s = true := by
  refine ⟨fun balanced => ?_, balanced_of_closes⟩
  have whole := closes_append balanced 0 []
  rwa [List.append_nil] at whole

instance (s : List Char) : Decidable (Balanced s) := decidable_of_iff _ balanced_iff_closes.symm

/-! ### Trailing dimensions -/

/-- `s` is what is left of it without bounds, `base`, and a bound in brackets for each dimension
behind that. -/
structure Dimensions (s base : List Char) (bounds : List (List Char)) : Prop where
  parts : s = base ++ bracketed bounds
  apart : base.getLast? ≠ some ']'
  balanced : ∀ b ∈ bounds, Balanced b

theorem bracketed_concat (bounds : List (List Char)) (b : List Char) :
    bracketed (bounds ++ [b]) = bracketed bounds ++ '[' :: (b ++ [']']) := by
  simp [bracketed]

theorem Dimensions.concat {b : List Char} (front : Dimensions s base bounds) (last : Balanced b) :
    Dimensions (s ++ '[' :: (b ++ [']'])) base (bounds ++ [b]) where
  parts := by rw [front.parts, bracketed_concat, List.append_assoc]
  apart := front.apart
  balanced := by
    intro b' member
    rcases List.mem_append.mp member with inFront | same
    · exact front.balanced b' inFront
    · rw [List.mem_singleton.mp same]
      exact last

theorem Dimensions.init {b : List Char} (whole : Dimensions s base (bounds ++ [b])) :
    ∃ front, s = front ++ '[' :: (b ++ [']']) ∧ Dimensions front base bounds ∧ Balanced b := by
  refine ⟨base ++ bracketed bounds, ?_, ⟨rfl, whole.apart, fun b' member => ?_⟩, ?_⟩
  · rw [whole.parts, bracketed_concat, List.append_assoc]
  · exact whole.balanced b' (List.mem_append_left [b] member)
  · exact whole.balanced b (List.mem_append_right bounds List.mem_cons_self)

theorem Dimensions.eq_base (whole : Dimensions s base []) : s = base := by
  rw [whole.parts, bracketed, List.flatMap_nil, List.append_nil]

theorem Dimensions.getLast?_iff (whole : Dimensions s base bounds) :
    s.getLast? = some ']' ↔ bounds ≠ [] := by
  cases bounds with
  | nil =>
    rw [whole.eq_base]
    exact iff_of_false whole.apart fun some_ => some_ rfl
  | cons b bounds =>
    obtain ⟨inner, same, _⟩ := BoundsText.bracketed_ends b bounds
    rw [whole.parts, same, ← List.cons_append, ← List.append_assoc, List.getLast?_concat]
    exact iff_of_true rfl (List.cons_ne_nil b bounds)

/-! ### At most one way -/

theorem closes_inj {depth' : Nat} (closed : closes depth s = true)
    (closed' : closes depth' s = true) : depth = depth' := by
  induction s generalizing depth depth' with
  | nil => exact (beq_iff_eq.mp closed).trans (beq_iff_eq.mp closed').symm
  | cons c s ih =>
    rcases bracket_cases c with rfl | rfl | ⟨opening, closing⟩
    · exact Nat.succ.inj (ih closed closed')
    · obtain ⟨inner, rfl, behind⟩ := exists_depth_of_closing closed
      obtain ⟨inner', rfl, behind'⟩ := exists_depth_of_closing closed'
      rw [ih behind behind']
    · rw [closes_other opening closing] at closed closed'
      exact ih closed closed'

/-- The bracket in front of balanced text has no partner in it. -/
theorem not_closes_opening (balanced : Balanced t) (front : List Char) (depth : Nat) :
    ¬ closes depth (front ++ '[' :: t) = true := by
  induction front generalizing depth with
  | nil =>
    intro closed
    rw [List.nil_append, closes_opening] at closed
    exact absurd (closes_inj closed (balanced_iff_closes.mp balanced)) (Nat.succ_ne_zero depth)
  | cons c front ih =>
    intro closed
    rw [List.cons_append] at closed
    rcases bracket_cases c with rfl | rfl | ⟨opening, closing⟩
    · exact ih (depth + 1) closed
    · obtain ⟨inner, _, behind⟩ := exists_depth_of_closing closed
      exact ih inner behind
    · rw [closes_other opening closing] at closed
      exact ih depth closed

theorem eq_nil_of_opening {front b b' : List Char} (balanced : Balanced b)
    (balanced' : Balanced b') (same : '[' :: b = front ++ '[' :: b') : front = [] := by
  cases front with
  | nil => rfl
  | cons _ front =>
    obtain ⟨_, rfl⟩ := List.cons.inj same
    exact absurd (balanced_iff_closes.mp balanced) (not_closes_opening balanced' front 0)

/-- Text ends in a bracket with balanced text behind it in at most one way. -/
theorem opening_unique {front front' b b' : List Char} (balanced : Balanced b)
    (balanced' : Balanced b') (same : front ++ '[' :: b = front' ++ '[' :: b') :
    front = front' ∧ b = b' := by
  have same_front : front = front' := by
    rcases List.append_eq_append_iff.mp same with ⟨x, longer, rest⟩ | ⟨x, longer, rest⟩
    · rw [longer, eq_nil_of_opening balanced balanced' rest, List.append_nil]
    · rw [longer, eq_nil_of_opening balanced' balanced rest, List.append_nil]
  subst same_front
  exact ⟨rfl, List.tail_eq_of_cons_eq (List.append_cancel_left same)⟩

theorem Dimensions.unique (whole : Dimensions s base bounds) (whole' : Dimensions s base' bounds') :
    base = base' ∧ bounds = bounds' := by
  induction bounds using List.reverseRecOn generalizing s bounds' with
  | nil =>
    obtain rfl : bounds' = [] := by
      by_contra some_
      exact whole.getLast?_iff.mp (whole'.getLast?_iff.mpr some_) rfl
    exact ⟨whole.eq_base.symm.trans whole'.eq_base, rfl⟩
  | append_singleton bounds b ih =>
    obtain ⟨front, parts, inFront, last⟩ := whole.init
    have ends : bounds' ≠ [] := whole'.getLast?_iff.mp (whole.getLast?_iff.mpr (by simp))
    obtain ⟨bounds', b', rfl⟩ := (List.eq_nil_or_concat' bounds').resolve_left ends
    obtain ⟨front', parts', inFront', last'⟩ := whole'.init
    rw [parts, ← List.cons_append, ← List.cons_append, ← List.append_assoc,
      ← List.append_assoc] at parts'
    obtain ⟨rfl, rfl⟩ := opening_unique last last' (List.append_cancel_right parts')
    obtain ⟨same, same'⟩ := ih inFront inFront'
    exact ⟨same, by rw [same']⟩

/-! ### Reading backwards -/

/-- One character of a bound. -/
theorem scanBound_within {c : Char} (acc rest : List Char) (within : ¬ (c = '[' ∧ depth = 0)) :
    ∃ depth', scanBound (some depth) acc (c :: rest) = scanBound (some depth') (c :: acc) rest ∧
      closes depth' (c :: acc) = closes depth acc := by
  rcases bracket_cases c with rfl | rfl | ⟨opening, closing⟩
  · cases depth with
    | zero => exact absurd ⟨rfl, rfl⟩ within
    | succ depth => exact ⟨depth, rfl, closes_opening⟩
  · exact ⟨depth + 1, by cases depth <;> rfl, closes_closing⟩
  · exact ⟨depth, by cases depth <;> simp [scanBound, opening, closing],
      closes_other opening closing⟩

/-- What is read backwards is the first bound of a text that ends in dimensions. In the middle of
a bound, `acc` is what was read of it and its closing bracket stands behind that. -/
theorem exists_dimensions {b : List Char} (s acc : List Char) :
    (scanBound none acc s = some b →
      ∃ base bounds, Dimensions s.reverse base bounds ∧ bounds.head?.getD acc = b) ∧
    ∀ depth, closes depth acc = true → scanBound (some depth) acc s = some b →
      ∃ base more, Dimensions (s.reverse ++ (acc ++ [']'])) base (b :: more) := by
  induction s generalizing acc with
  | nil =>
    constructor
    · intro found
      cases found
      exact ⟨[], [], ⟨rfl, by simp, by simp⟩, rfl⟩
    · intro depth _ found
      cases found
  | cons c s ih =>
    constructor
    · intro found
      by_cases closing : c = ']'
      · subst closing
        obtain ⟨base, more, whole⟩ := (ih []).2 0 rfl found
        exact ⟨base, b :: more, by simpa using whole, rfl⟩
      · rw [scanBound, if_neg closing] at found
        cases found
        exact ⟨(c :: s).reverse, [], ⟨by simp [bracketed], by simpa using closing, by simp⟩, rfl⟩
    · intro depth closed found
      by_cases ends : c = '[' ∧ depth = 0
      · obtain ⟨rfl, rfl⟩ := ends
        obtain ⟨base, bounds, whole, first⟩ := (ih acc).1 found
        have longer := whole.concat (balanced_of_closes closed)
        cases bounds with
        | nil =>
          cases first
          exact ⟨base, [], by simpa using longer⟩
        | cons b' more =>
          cases first
          exact ⟨base, more ++ [acc], by simpa using longer⟩
      · obtain ⟨depth', step, same⟩ := scanBound_within acc s ends
        rw [step] at found
        obtain ⟨base, more, whole⟩ := (ih (c :: acc)).2 depth' (same.trans closed) found
        exact ⟨base, more, by simpa using whole⟩

theorem scanBound_of_dimensions {b : List Char} (whole : Dimensions s base (b :: bounds)) :
    scanBound none [] s.reverse = some b := by
  have closed := fun b' member => balanced_iff_closes.mp (whole.balanced b' member)
  rw [whole.parts, List.reverse_append, scanBound_bracketed closed]
  exact scanBound_base whole.apart

theorem firstBound_eq_ok {b : List Char} : firstBound s = .ok b ↔
    2 < byteLength (trim s) ∧ ∃ base more, Dimensions (trim s) base (b :: more) := by
  constructor
  · intro found
    unfold firstBound at found
    dsimp only at found
    split at found
    · cases found
    · rename_i guard
      obtain ⟨long, ends⟩ := not_or.mp guard
      split at found
      · rename_i scanned
        cases found
        obtain ⟨base, bounds, whole, first⟩ := (exists_dimensions _ []).1 scanned
        rw [List.reverse_reverse] at whole
        obtain ⟨b', more, rfl⟩ :=
          List.exists_cons_of_ne_nil (whole.getLast?_iff.mp (not_not.mp ends))
        cases first
        exact ⟨Nat.lt_of_not_le long, base, more, whole⟩
      · cases found
  · rintro ⟨long, base, more, whole⟩
    have ends := whole.getLast?_iff.mpr (List.cons_ne_nil b more)
    unfold firstBound
    rw [if_neg (not_or.mpr ⟨by omega, not_not_intro ends⟩), scanBound_of_dimensions whole]

theorem boundOf_eq_ok {b : List Char} : boundOf s = .ok b ↔ firstBound s = .ok b := by
  unfold boundOf
  cases firstBound s <;> simp

theorem firstBound_eq_error {fault : BoundFault} (failed : firstBound s = .error fault) :
    fault = .noBracket ↔ byteLength (trim s) ≤ 2 ∨ (trim s).getLast? ≠ some ']' := by
  unfold firstBound at failed
  dsimp only at failed
  split at failed
  · rename_i guard
    cases failed
    exact iff_of_true rfl guard
  · rename_i guard
    split at failed
    · cases failed
    · cases failed
      exact iff_of_false (by decide) guard

theorem boundOf_eq_error (none : ∀ b, boundOf s ≠ .ok b) : ∃ fault : BoundFault,
    boundOf s = .error (.malformedSpelling (String.ofList (trim s)) fault.reason) ∧
      (fault = .noBracket ↔ byteLength (trim s) ≤ 2 ∨ (trim s).getLast? ≠ some ']') := by
  cases read : firstBound s with
  | ok b => exact absurd (boundOf_eq_ok.mpr read) (none b)
  | error fault => exact ⟨fault, by rw [boundOf, read], firstBound_eq_error read⟩

/-! ### The number of open brackets -/

/-- The number of brackets that are open in front of one more character, none below zero. -/
def recount? (depth : Nat) (c : Char) : Option Nat :=
  if c = ']' then some (depth + 1)
  else if c = '[' then (if depth = 0 then none else some (depth - 1))
  else some depth

/-- The first bound, read backwards with a number of open brackets that counts those of the bound
too, so that it is zero between two bounds. There is no answer if it falls below zero. -/
def countedBound? (depth : Nat) (bound : List Char) : List Char → Option (Option (List Char))
  | [] => some (if depth = 0 then some bound else none)
  | c :: rest =>
    if depth = 0 then
      if c = ']' then countedBound? 1 [] rest else some (some bound)
    else do
      let inner ← recount? depth c
      countedBound? inner (if inner = 0 then bound else c :: bound) rest

theorem countedBound?_eq (s acc : List Char) :
    countedBound? 0 acc s = some (scanBound none acc s) ∧
      ∀ depth, countedBound? (depth + 1) acc s = some (scanBound (some depth) acc s) := by
  induction s generalizing acc with
  | nil => exact ⟨rfl, fun depth => rfl⟩
  | cons c s ih =>
    constructor
    · by_cases closing : c = ']'
      · simp [countedBound?, scanBound, closing, (ih []).2 0]
      · simp [countedBound?, scanBound, closing]
    · intro depth
      rcases bracket_cases c with rfl | rfl | ⟨opening, closing⟩
      · cases depth with
        | zero => simpa [countedBound?, recount?, scanBound] using (ih acc).1
        | succ depth => simpa [countedBound?, recount?, scanBound] using (ih ('[' :: acc)).2 depth
      · have inner := (ih (']' :: acc)).2 (depth + 1)
        cases depth <;> simpa [countedBound?, recount?, scanBound] using inner
      · have inner := (ih (c :: acc)).2 depth
        cases depth <;> simpa [countedBound?, recount?, scanBound, closing, opening] using inner

/-- The bound of an array is the first of the dimensions that its spelling ends in, in the one
way to divide it. If there are none, its spelling is malformed. The number of open brackets is
never below zero, whatever the spelling. -/
theorem boundOf_dimensions (s : List Char) :
    (∀ b, boundOf s = .ok b ↔
      2 < byteLength (trim s) ∧ ∃ base more, Dimensions (trim s) base (b :: more)) ∧
    (∀ base base' bounds bounds', Dimensions (trim s) base bounds →
      Dimensions (trim s) base' bounds' → base = base' ∧ bounds = bounds') ∧
    ((∀ b, boundOf s ≠ .ok b) → ∃ fault : BoundFault,
      boundOf s = .error (.malformedSpelling (String.ofList (trim s)) fault.reason) ∧
        (fault = .noBracket ↔ byteLength (trim s) ≤ 2 ∨ (trim s).getLast? ≠ some ']')) ∧
    countedBound? 0 [] (trim s).reverse = some (scanBound none [] (trim s).reverse) :=
  ⟨fun _ => boundOf_eq_ok.trans firstBound_eq_ok, fun _ _ _ _ whole whole' => whole.unique whole',
    boundOf_eq_error, (countedBound?_eq _ []).1⟩

def nestedDimensions : List Char := " int[f[0]][é] ".toList

theorem dimensions_nestedDimensions :
    Dimensions (trim nestedDimensions) "int".toList ["f[0]".toList, "é".toList] where
  parts := by decide
  apart := by decide
  balanced := by decide

theorem boundOf_nestedDimensions : boundOf nestedDimensions = .ok "f[0]".toList :=
  ((boundOf_dimensions nestedDimensions).1 _).mpr
    ⟨by decide, "int".toList, ["é".toList], dimensions_nestedDimensions⟩

end CxxTrees.Spelling
