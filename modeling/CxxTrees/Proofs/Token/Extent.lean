import CxxTrees.Proofs.Text.Classes
import CxxTrees.Token.Scan

/-!
# How far tokens reach

The extents that a text is cut by never reach behind its end. What is read of a
token in front of one text says what is read of it in front of another.
-/

namespace CxxTrees.Token
open Text

/-! ### First characters -/

/-- A number starts with a digit, or with a point and a digit. -/
def startsNumber (c : Char) (s : List Char) : Bool :=
  c.isDigit || (c == '.' && s.head?.any Char.isDigit)

theorem isIdentifierStart_of_startsNumber {c : Char} {s : List Char}
    (number : startsNumber c s = true) : isIdentifierStart c = false := by
  apply isIdentifierStart_of_lt
  simp only [startsNumber, Bool.or_eq_true, Bool.and_eq_true, beq_iff_eq] at number
  rcases number with digit | ⟨rfl, _⟩
  · exact toNat_lt_of_isDigit digit
  · decide

theorem isQuote_iff {c : Char} : isQuote c = true ↔ c = '\x22' ∨ c = '\x27' := by
  simp [isQuote]

theorem isIdentifierStart_of_isQuote {c : Char} (quote : isQuote c = true) :
    isIdentifierStart c = false := by
  apply isIdentifierStart_of_lt
  rcases isQuote_iff.mp quote with rfl | rfl <;> decide

theorem startsNumber_of_isQuote {c : Char} {s : List Char} (quote : isQuote c = true) :
    startsNumber c s = false := by
  rcases isQuote_iff.mp quote with rfl | rfl <;> rfl

theorem startsNumber_append {c : Char} {w : List Char} (r : List Char)
    (number : startsNumber c w = true) : startsNumber c (w ++ r) = true := by
  cases w with
  | nil => simp_all [startsNumber]
  | cons d w => simpa [startsNumber] using number

/-- Only a point is made a number by what follows it. -/
theorem eq_point_of_startsNumber {c : Char} {w r : List Char} (plain : startsNumber c w = false)
    (number : startsNumber c (w ++ r) = true) :
    c = '.' ∧ w = [] ∧ ∃ b s, r = b :: s ∧ b.isDigit = true := by
  cases w with
  | nil =>
    cases r with
    | nil => simp_all
    | cons b s => simp_all [startsNumber]
  | cons d w => simp_all [startsNumber]

theorem isIdentifierChar_of_isQuote {c : Char} (quote : isQuote c = true) :
    isIdentifierChar c = false := by
  rcases isQuote_iff.mp quote with rfl | rfl <;> decide

/-! ### Quoted literals -/

theorem quotedExtent_le (q : Char) (s : List Char) : quotedExtent q s ≤ s.length := by
  fun_induction quotedExtent q s <;> simp_all

theorem quotedExtent_pos {q : Char} {s : List Char} (more : s ≠ []) : 0 < quotedExtent q s := by
  fun_cases quotedExtent q s <;> simp_all

theorem quotedExtent_cons {q c : Char} {s : List Char} (plain : c ≠ '\\') :
    quotedExtent q (c :: s) = if c = q then 1 else quotedExtent q s + 1 := by
  rw [quotedExtent]
  · exact fun same => absurd same plain
  · exact fun _ _ same => absurd same plain

/-- A literal that ends in front of some text ends in front of any. -/
theorem quotedExtent_append {q : Char} {w r₀ : List Char} (more : r₀ ≠ [])
    (closed : quotedExtent q (w ++ r₀) = w.length) (r : List Char) :
    quotedExtent q (w ++ r) = w.length := by
  fun_induction quotedExtent q w with
  | case1 => exact absurd closed (Nat.ne_of_gt (quotedExtent_pos more))
  | case2 =>
    cases r₀ with
    | nil => exact absurd rfl more
    | cons x r₀ => simp [quotedExtent] at closed
  | case3 x w ih =>
    simp only [List.cons_append, quotedExtent, List.length_cons, Nat.add_right_cancel_iff] at *
    exact ih closed
  | case4 w single escaped =>
    have plain : q ≠ '\\' := by
      rintro rfl
      cases w with
      | nil => exact single rfl rfl
      | cons x w => exact escaped x w rfl rfl
    simp only [List.cons_append, quotedExtent_cons plain] at closed ⊢
    exact closed
  | case5 c w single escaped other ih =>
    have plain : c ≠ '\\' := by
      rintro rfl
      cases w with
      | nil => exact single rfl rfl
      | cons x w => exact escaped x w rfl rfl
    simp only [List.cons_append, quotedExtent_cons plain, if_neg other, List.length_cons,
      Nat.add_right_cancel_iff] at closed ⊢
    exact ih closed

/-! ### Numbers -/

theorem numberExtent_le (last : Char) (s : List Char) : numberExtent last s ≤ s.length := by
  fun_induction numberExtent last s <;> simp_all

/-- A number is read on from its last character. -/
theorem numberExtent_append {last : Char} {w r₀ : List Char}
    (whole : numberExtent last (w ++ r₀) = w.length) (r : List Char) :
    numberExtent last (w ++ r) = w.length + numberExtent ((last :: w).getLast (by simp)) r := by
  induction w generalizing last with
  | nil => simp
  | cons c w ih =>
    simp only [List.cons_append, numberExtent, List.length_cons] at whole ⊢
    split at whole
    · rename_i continues
      rw [if_pos continues, ih (by omega)]
      simp only [List.getLast_cons_cons]
      omega
    · omega

theorem numberExtent_eq_zero_iff {last : Char} {r : List Char} :
    numberExtent last r = 0 ↔ ∀ b s, r = b :: s → continuesNumber last b = false := by
  cases r <;> simp [numberExtent]

/-! ### Words -/

/-- How much of `r` is a literal that belongs to the word `t` in front of it. -/
def literalExtent (t : List Char) : List Char → Nat
  | [] => 0
  | b :: s => if isQuote b && encodingWords.contains t then 1 + quotedExtent b s else 0

theorem wordExtent_append {c : Char} {w r : List Char} (whole : w.all isIdentifierChar = true)
    (ends : ∀ b s, r = b :: s → isIdentifierChar b = false) :
    wordExtent c (w ++ r) = w.length + literalExtent (c :: w) r := by
  have all : ∀ a ∈ w, isIdentifierChar a = true := List.all_eq_true.mp whole
  have more : (w ++ r).takeWhile isIdentifierChar = w := by
    rw [List.takeWhile_append_of_pos all]
    cases r with
    | nil => simp
    | cons b s => simp [ends b s rfl]
  unfold wordExtent
  simp only [more, List.drop_left]
  cases r with
  | nil => rfl
  | cons b s =>
    simp only [literalExtent]
    split <;> omega

theorem exists_wordExtent (c : Char) (s : List Char) :
    ∃ w r, s = w ++ r ∧ w.all isIdentifierChar = true ∧
      (∀ b r', r = b :: r' → isIdentifierChar b = false) ∧
      wordExtent c s = w.length + literalExtent (c :: w) r := by
  have whole : (s.takeWhile isIdentifierChar).all isIdentifierChar = true := List.all_takeWhile
  have ends : ∀ b r, s.dropWhile isIdentifierChar = b :: r → isIdentifierChar b = false := by
    intro b r rest
    have := List.head_dropWhile_not (p := isIdentifierChar) (l := s) (by simp [rest])
    simpa [rest] using this
  refine ⟨_, _, List.takeWhile_append_dropWhile.symm, whole, ends, ?_⟩
  rw [← wordExtent_append whole ends, List.takeWhile_append_dropWhile]

theorem literalExtent_le (t r : List Char) : literalExtent t r ≤ r.length := by
  cases r with
  | nil => simp [literalExtent]
  | cons b s =>
    have := quotedExtent_le b s
    simp only [literalExtent, List.length_cons]
    split <;> omega

theorem all_isIdentifierChar_of_mem_encodingWords {t : List Char} (encodes : t ∈ encodingWords) :
    t.all isIdentifierChar = true := by
  revert t
  decide

theorem literalExtent_pos_iff {t r : List Char} :
    0 < literalExtent t r ↔ ∃ b s, r = b :: s ∧ t ∈ encodingWords ∧ isQuote b = true := by
  cases r with
  | nil => simp [literalExtent]
  | cons b s =>
    simp only [literalExtent, List.cons.injEq, Bool.and_eq_true, List.contains_iff_mem]
    split
    · rename_i literal
      exact ⟨fun _ => ⟨b, s, ⟨rfl, rfl⟩, literal.2, literal.1⟩, fun _ => by omega⟩
    · rename_i plain
      constructor
      · omega
      · rintro ⟨_, _, ⟨rfl, rfl⟩, encodes, quote⟩
        exact absurd ⟨quote, encodes⟩ plain

variable {c : Char} {w : List Char}

theorem lt_wordExtent {b : Char} {s : List Char} (whole : w.all isIdentifierChar = true)
    (next : isIdentifierChar b = true) : w.length < wordExtent c (w ++ b :: s) := by
  obtain ⟨v, u, rfl, whole', ends, _⟩ := exists_wordExtent c s
  have longer : (w ++ b :: v).all isIdentifierChar = true := by
    simp [List.all_append, whole, whole', next]
  have reach := wordExtent_append (c := c) longer ends
  rw [List.append_assoc, List.cons_append] at reach
  rw [reach, List.length_append, List.length_cons]
  omega

theorem literalExtent_cons {t s : List Char} {q : Char} (encodes : t ∈ encodingWords)
    (quote : isQuote q = true) : literalExtent t (q :: s) = 1 + quotedExtent q s :=
  if_pos (by rw [quote, List.contains_iff_mem.mpr encodes]; rfl)

/-- A literal belongs to the word that says how it is encoded. -/
theorem wordExtent_literal {c q : Char} {w s : List Char} (encodes : c :: w ∈ encodingWords)
    (quote : isQuote q = true) :
    wordExtent c (w ++ q :: s) = w.length + (1 + quotedExtent q s) := by
  have whole : w.all isIdentifierChar = true :=
    (Bool.and_eq_true_iff.mp (all_isIdentifierChar_of_mem_encodingWords encodes)).2
  rw [wordExtent_append whole, literalExtent_cons encodes quote]
  rintro _ _ same
  cases same
  exact isIdentifierChar_of_isQuote quote

/-! ### Punctuators -/

theorem length_of_mem_punctuators3 {p : List Char} (known : p ∈ punctuators3) : p.length = 3 := by
  revert p
  decide

theorem length_of_mem_punctuators2 {p : List Char} (known : p ∈ punctuators2) : p.length = 2 := by
  revert p
  decide

theorem punctuatorExtent_cases (s : List Char) :
    (punctuatorExtent s = 2 ∧ ∃ p ∈ punctuators3, p <+: s) ∨
    (punctuatorExtent s = 1 ∧ (∀ p ∈ punctuators3, ¬ p <+: s) ∧ ∃ p ∈ punctuators2, p <+: s) ∨
    (punctuatorExtent s = 0 ∧ (∀ p ∈ punctuators3, ¬ p <+: s) ∧ ∀ p ∈ punctuators2, ¬ p <+: s) := by
  unfold punctuatorExtent
  simp only [List.any_eq_true, List.isPrefixOf_iff_prefix]
  by_cases three : ∃ p ∈ punctuators3, p <+: s
  · exact .inl ⟨if_pos three, three⟩
  · have none : ∀ p ∈ punctuators3, ¬ p <+: s := by simpa using three
    rw [if_neg three]
    by_cases two : ∃ p ∈ punctuators2, p <+: s
    · exact .inr (.inl ⟨if_pos two, none, two⟩)
    · exact .inr (.inr ⟨if_neg two, none, by simpa using two⟩)

theorem punctuatorExtent_le {c : Char} {s : List Char} : punctuatorExtent (c :: s) ≤ s.length := by
  rcases punctuatorExtent_cases (c :: s) with ⟨extent, p, known, starts⟩ |
    ⟨extent, _, p, known, starts⟩ | ⟨extent, _⟩
  · have := length_of_mem_punctuators3 known
    have := starts.length_le
    simp only [List.length_cons] at this
    omega
  · have := length_of_mem_punctuators2 known
    have := starts.length_le
    simp only [List.length_cons] at this
    omega
  · omega

def IsPunctuator (p : List Char) : Prop := p ∈ punctuators2 ∨ p ∈ punctuators3

instance (p : List Char) : Decidable (IsPunctuator p) := inferInstanceAs (Decidable (_ ∨ _))

theorem exists_punctuator_iff {n : Nat} {s : List Char} (pos : 0 < n) :
    (∃ p, IsPunctuator p ∧ n < p.length ∧ p <+: s) ↔ n ≤ punctuatorExtent s := by
  constructor
  · rintro ⟨p, two | three, longer, starts⟩
    · have := length_of_mem_punctuators2 two
      rcases punctuatorExtent_cases s with ⟨extent, _⟩ | ⟨extent, _⟩ | ⟨_, _, none⟩
      · omega
      · omega
      · exact absurd starts (none p two)
    · have := length_of_mem_punctuators3 three
      rcases punctuatorExtent_cases s with ⟨extent, _⟩ | ⟨_, none, _⟩ | ⟨_, none, _⟩
      · omega
      · exact absurd starts (none p three)
      · exact absurd starts (none p three)
  · intro reach
    rcases punctuatorExtent_cases s with ⟨extent, p, known, starts⟩ |
      ⟨extent, _, p, known, starts⟩ | ⟨extent, _⟩
    · exact ⟨p, .inr known, by rw [length_of_mem_punctuators3 known]; omega, starts⟩
    · exact ⟨p, .inl known, by rw [length_of_mem_punctuators2 known]; omega, starts⟩
    · omega

/-- A punctuator that was read is a single character or a known one. -/
theorem isPunctuator_of_extent {t r₀ : List Char}
    (token : punctuatorExtent (t ++ r₀) + 1 = t.length) : t.length = 1 ∨ IsPunctuator t := by
  by_cases single : t.length ≤ 1
  · exact .inl (by omega)
  · obtain ⟨p, known, longer, starts⟩ :=
      (exists_punctuator_iff (n := t.length - 1) (s := t ++ r₀) (by omega)).mpr (by omega)
    have bounded : ¬ t.length < p.length := fun more => by
      have := (exists_punctuator_iff (s := t ++ r₀) (by omega)).mp ⟨p, known, more, starts⟩
      omega
    have front : p <+: t :=
      List.prefix_of_prefix_length_le starts (List.prefix_append t r₀) (by omega)
    exact .inr (front.eq_of_length (by omega) ▸ known)

/-- A punctuator is read at least as far in front of any text. -/
theorem le_punctuatorExtent {t r₀ : List Char} (token : punctuatorExtent (t ++ r₀) + 1 = t.length)
    (r : List Char) : t.length ≤ punctuatorExtent (t ++ r) + 1 := by
  rcases isPunctuator_of_extent token with single | known
  · omega
  · by_cases single : t.length ≤ 1
    · omega
    · have := (exists_punctuator_iff (n := t.length - 1) (s := t ++ r) (by omega)).mp
        ⟨t, known, by omega, List.prefix_append t r⟩
      omega

/-- A punctuator is read whole unless a longer one starts there. -/
theorem punctuatorExtent_append_iff {t r₀ : List Char}
    (token : punctuatorExtent (t ++ r₀) + 1 = t.length) (r : List Char) :
    punctuatorExtent (t ++ r) + 1 = t.length ↔
      ¬ ∃ p, IsPunctuator p ∧ t.length < p.length ∧ p <+: t ++ r := by
  have least := le_punctuatorExtent token r
  rw [exists_punctuator_iff (by omega)]
  omega

/-! ### Tokens -/

theorem extent_of_isIdentifierStart {c : Char} {s : List Char}
    (start : isIdentifierStart c = true) : extent c s = wordExtent c s := if_pos start

theorem extent_of_startsNumber {c : Char} {s : List Char} (number : startsNumber c s = true) :
    extent c s = numberExtent c s := by
  unfold extent
  rw [if_neg (by simp [isIdentifierStart_of_startsNumber number])]
  exact if_pos number

theorem extent_of_isQuote {c : Char} {s : List Char} (quote : isQuote c = true) :
    extent c s = quotedExtent c s := by
  unfold extent
  rw [if_neg (by simp [isIdentifierStart_of_isQuote quote])]
  exact (if_neg (Bool.eq_false_iff.mp (startsNumber_of_isQuote quote))).trans (if_pos quote)

theorem extent_of_sign {c : Char} {s : List Char} (start : isIdentifierStart c = false)
    (number : startsNumber c s = false) (quote : isQuote c = false) :
    extent c s = punctuatorExtent (c :: s) := by
  unfold extent
  rw [if_neg (Bool.eq_false_iff.mp start)]
  exact (if_neg (Bool.eq_false_iff.mp number)).trans (if_neg (Bool.eq_false_iff.mp quote))

theorem extent_le (c : Char) (s : List Char) : extent c s ≤ s.length := by
  unfold extent
  split
  · obtain ⟨w, r, rfl, _, _, extent⟩ := exists_wordExtent c s
    have := literalExtent_le (c :: w) r
    simp only [extent, List.length_append]
    omega
  · split
    · exact numberExtent_le c s
    · split
      · exact quotedExtent_le c s
      · exact punctuatorExtent_le

end CxxTrees.Token
