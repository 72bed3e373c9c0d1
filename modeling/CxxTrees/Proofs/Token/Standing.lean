import CxxTrees.Proofs.Token.Extent

/-!
# Tokens in front of a text

`Stands t r` says that the token `t` is read whole in front of the text `r`, and
`RunsOn t r` lists what makes a longer token of it. `stands_iff` says that these
are opposites. No token runs on into a blank or a comma.
-/

namespace CxxTrees.Token
open Text

/-- In front of `r` the token `t` is read whole, and nothing of `r` along with it. -/
def Stands (t r : List Char) : Prop :=
  ∃ c w, t = c :: w ∧ isBlank c = false ∧ extent c (w ++ r) = w.length

theorem scan_of_stands {t r : List Char} (stands : Stands t r) : scan (t ++ r) = t :: scan r := by
  obtain ⟨c, w, rfl, visible, reach⟩ := stands
  rw [List.cons_append, scan_cons, if_neg (Bool.eq_false_iff.mp visible), reach, List.take_left,
    List.drop_left]

theorem stands_of_scan {t r : List Char} {ts : List (List Char)} {c : Char} {w : List Char}
    (head : t = c :: w) (visible : isBlank c = false) (cut : scan (t ++ r) = t :: ts) :
    Stands t r ∧ scan r = ts := by
  subst head
  rw [List.cons_append, scan_cons, if_neg (Bool.eq_false_iff.mp visible)] at cut
  obtain ⟨token, rest⟩ := List.cons.inj cut
  have reach : extent c (w ++ r) = w.length := by
    have := congrArg List.length (List.cons.inj token).2
    have := extent_le c (w ++ r)
    rw [List.length_take] at *
    omega
  rw [reach, List.drop_left] at rest
  exact ⟨⟨c, w, rfl, visible, reach⟩, rest⟩

/-- What behind a token makes it a longer one. -/
def RunsOn (t r : List Char) : Prop :=
  match t with
  | [] => False
  | c :: w =>
    if isIdentifierStart c then
      ∃ b s, r = b :: s ∧ (w.all isIdentifierChar = true ∧ isIdentifierChar b = true ∨
        c :: w ∈ encodingWords ∧ isQuote b = true)
    else if startsNumber c w then
      ∃ b s, r = b :: s ∧ continuesNumber ((c :: w).getLast (List.cons_ne_nil c w)) b = true
    else if isQuote c then False
    else c :: w = ['.'] ∧ (∃ b s, r = b :: s ∧ b.isDigit = true) ∨
      ∃ p, IsPunctuator p ∧ (c :: w).length < p.length ∧ p <+: c :: w ++ r

variable {c : Char} {w r r₀ : List Char}

theorem runsOn_word (start : isIdentifierStart c = true) :
    RunsOn (c :: w) r ↔ ∃ b s, r = b :: s ∧
      (w.all isIdentifierChar = true ∧ isIdentifierChar b = true ∨
        c :: w ∈ encodingWords ∧ isQuote b = true) := iff_of_eq (if_pos start)

theorem runsOn_number (number : startsNumber c w = true) :
    RunsOn (c :: w) r ↔ ∃ b s, r = b :: s ∧
      continuesNumber ((c :: w).getLast (List.cons_ne_nil c w)) b = true := by
  have start := isIdentifierStart_of_startsNumber number
  exact iff_of_eq ((if_neg (Bool.eq_false_iff.mp start)).trans (if_pos number))

theorem runsOn_quote (quote : isQuote c = true) : ¬ RunsOn (c :: w) r := by
  have start := isIdentifierStart_of_isQuote quote
  have number := startsNumber_of_isQuote (s := w) quote
  exact of_eq_false <| (if_neg (Bool.eq_false_iff.mp start)).trans <|
    (if_neg (Bool.eq_false_iff.mp number)).trans (if_pos quote)

theorem runsOn_sign (start : isIdentifierStart c = false) (number : startsNumber c w = false)
    (quote : isQuote c = false) :
    RunsOn (c :: w) r ↔ c :: w = ['.'] ∧ (∃ b s, r = b :: s ∧ b.isDigit = true) ∨
      ∃ p, IsPunctuator p ∧ (c :: w).length < p.length ∧ p <+: c :: w ++ r :=
  iff_of_eq <| (if_neg (Bool.eq_false_iff.mp start)).trans <|
    (if_neg (Bool.eq_false_iff.mp number)).trans (if_neg (Bool.eq_false_iff.mp quote))

/-! ### Longer tokens -/

theorem wordExtent_iff (start : isIdentifierStart c = true) (more : r₀ ≠ [])
    (token : wordExtent c (w ++ r₀) = w.length) :
    wordExtent c (w ++ r) = w.length ↔ ¬ RunsOn (c :: w) r := by
  rw [runsOn_word start]
  obtain ⟨v, u, split, whole, ends, reach⟩ := exists_wordExtent c (w ++ r₀)
  rw [token] at reach
  have front : v <+: w :=
    List.prefix_of_prefix_length_le (split ▸ List.prefix_append v u) (List.prefix_append w r₀)
      (by omega)
  obtain ⟨x, rfl⟩ := front
  cases x with
  | nil =>
    -- A word alone is read on by word characters and, if it is an encoding prefix, by a literal.
    rw [List.append_nil] at *
    constructor
    · rintro here ⟨b, s, rfl, ⟨_, next⟩ | ⟨encodes, quote⟩⟩
      · have := lt_wordExtent (c := c) (s := s) whole next
        omega
      · rw [wordExtent_literal encodes quote] at here
        omega
    · intro alone
      have stop : ∀ b s, r = b :: s → isIdentifierChar b = false := by
        intro b s same
        rw [Bool.eq_false_iff]
        exact fun next => alone ⟨b, s, same, .inl ⟨whole, next⟩⟩
      have none : ¬ 0 < literalExtent (c :: v) r := by
        rw [literalExtent_pos_iff]
        rintro ⟨b, s, same, literal⟩
        exact alone ⟨b, s, same, .inr literal⟩
      rw [wordExtent_append whole stop]
      omega
  | cons q x =>
    -- A word with its literal is read the same in front of anything.
    rw [List.append_assoc, List.append_cancel_left_eq] at split
    subst split
    rw [List.length_append, List.length_cons] at reach
    obtain ⟨_, _, same, encodes, quote⟩ := literalExtent_pos_iff.mp
      (show 0 < literalExtent (c :: v) (q :: x ++ r₀) by omega)
    cases same
    have word := isIdentifierChar_of_isQuote quote
    rw [List.cons_append, literalExtent_cons encodes quote] at reach
    have closed := quotedExtent_append more (show quotedExtent q (x ++ r₀) = x.length by omega) r
    constructor
    · rintro - ⟨b, s, rfl, ⟨all, _⟩ | ⟨encodes', _⟩⟩
      · simp [word] at all
      · have all := all_isIdentifierChar_of_mem_encodingWords encodes'
        simp [word] at all
    · intro _
      rw [List.append_assoc, List.cons_append, wordExtent_literal encodes quote, closed,
        List.length_append, List.length_cons]
      omega

theorem numberExtent_iff (number : startsNumber c w = true)
    (token : numberExtent c (w ++ r₀) = w.length) :
    numberExtent c (w ++ r) = w.length ↔ ¬ RunsOn (c :: w) r := by
  rw [runsOn_number number, numberExtent_append token, Nat.add_eq_left, numberExtent_eq_zero_iff]
  simp

/-- In front of a digit a point is no token of its own. -/
theorem numberExtent_pos {last b : Char} {s : List Char} (digit : b.isDigit = true) :
    0 < numberExtent last (b :: s) := by
  simp [numberExtent, continuesNumber, isIdentifierChar_of_isDigit digit]

/-- A token that starts no number by itself does not start one with the text behind it. -/
theorem startsNumber_of_extent (number : startsNumber c w = false)
    (token : extent c (w ++ r₀) = w.length) : startsNumber c (w ++ r₀) = false := by
  rw [Bool.eq_false_iff]
  intro number'
  rw [extent_of_startsNumber number'] at token
  obtain ⟨rfl, rfl, b, s, rfl, digit⟩ := eq_point_of_startsNumber number number'
  exact absurd token (Nat.ne_of_gt (numberExtent_pos digit))

theorem signExtent (start : isIdentifierStart c = false) (number : startsNumber c w = false)
    (quote : isQuote c = false) (token : extent c (w ++ r₀) = w.length) :
    punctuatorExtent (c :: w ++ r₀) + 1 = (c :: w).length := by
  rw [extent_of_sign start (startsNumber_of_extent number token) quote] at token
  exact congrArg (· + 1) token

theorem signExtent_iff (start : isIdentifierStart c = false) (number : startsNumber c w = false)
    (quote : isQuote c = false) (token : extent c (w ++ r₀) = w.length) :
    extent c (w ++ r) = w.length ↔ ¬ RunsOn (c :: w) r := by
  rw [runsOn_sign start number quote]
  cases number' : startsNumber c (w ++ r) with
  | true =>
    obtain ⟨rfl, rfl, b, s, rfl, digit⟩ := eq_point_of_startsNumber number number'
    rw [extent_of_startsNumber number']
    exact iff_of_false (Nat.ne_of_gt (numberExtent_pos digit))
      (not_not_intro (.inl ⟨rfl, b, s, rfl, digit⟩))
  | false =>
    have point : ¬ (c :: w = ['.'] ∧ ∃ b s, r = b :: s ∧ b.isDigit = true) := by
      rintro ⟨same, b, s, rfl, digit⟩
      cases same
      simp [startsNumber, digit] at number'
    rw [extent_of_sign start number' quote, or_iff_right point,
      ← punctuatorExtent_append_iff (signExtent start number quote token) r]
    exact (Nat.add_right_cancel_iff (n := 1)).symm

/-- A token that is followed by some text stands in front of just the texts it does not run on. -/
theorem stands_iff {t : List Char} (more : r₀ ≠ []) (token : Stands t r₀) :
    Stands t r ↔ ¬ RunsOn t r := by
  obtain ⟨c, w, rfl, visible, reach⟩ := token
  have here : Stands (c :: w) r ↔ extent c (w ++ r) = w.length := by
    constructor
    · rintro ⟨_, _, same, _, reach⟩
      cases same
      exact reach
    · exact fun reach => ⟨c, w, rfl, visible, reach⟩
  rw [here]
  cases start : isIdentifierStart c with
  | true =>
    rw [extent_of_isIdentifierStart start] at reach ⊢
    exact wordExtent_iff start more reach
  | false =>
    cases number : startsNumber c w with
    | true =>
      rw [extent_of_startsNumber (startsNumber_append _ number)] at reach ⊢
      exact numberExtent_iff number reach
    | false =>
      cases quote : isQuote c with
      | true =>
        rw [extent_of_isQuote quote] at reach ⊢
        exact iff_of_true (quotedExtent_append more reach r) (runsOn_quote quote)
      | false =>
        exact signExtent_iff start number quote reach

/-! ### Ends and separators -/

/-- A character that is in no punctuator of more than one character. -/
def IsPlain (b : Char) : Prop := ∀ p ∈ punctuators2 ++ punctuators3, b ∉ p

instance (b : Char) : Decidable (IsPlain b) := inferInstanceAs (Decidable (∀ p ∈ _, _))

/-- A character that no token goes on with, unless a literal is open. -/
structure IsSeparator (b : Char) : Prop where
  plain : IsPlain b
  word : isIdentifierChar b = false
  quote : isQuote b = false

theorem isSeparator_of_isBlank {b : Char} (blank : isBlank b = true) : IsSeparator b where
  plain := by
    have visible : ∀ p ∈ punctuators2 ++ punctuators3, p.all (! isBlank ·) = true := by decide
    intro p known member
    have := List.all_eq_true.mp (visible p known) b member
    simp [blank] at this
  word := isIdentifierChar_of_isBlank blank
  quote := by
    rw [Bool.eq_false_iff]
    intro quote
    rcases isQuote_iff.mp quote with rfl | rfl <;> cases blank

theorem isSeparator_comma : IsSeparator ',' := ⟨by decide, by decide, by decide⟩

/-- The signs that a number may have in it are in punctuators, or quotes. -/
theorem IsSeparator.continuesNumber {b : Char} (apart : IsSeparator b) (last : Char) :
    continuesNumber last b = false := by
  have sign {a : Char} (p : List Char) (known : p ∈ punctuators2 ++ punctuators3)
      (member : a ∈ p) : b ≠ a := by
    rintro rfl
    exact apart.plain p known member
  have plus : b ≠ '+' := sign "++".toList (by decide) (by decide)
  have minus : b ≠ '-' := sign "--".toList (by decide) (by decide)
  have point : b ≠ '.' := sign "...".toList (by decide) (by decide)
  have quote : b ≠ '\x27' := by
    rintro rfl
    exact absurd apart.quote (by decide)
  simp [Token.continuesNumber, apart.word, quote, plus, minus, point]

theorem not_runsOn_nil {t : List Char} : ¬ RunsOn t [] := by
  cases t with
  | nil => exact id
  | cons c w =>
    cases start : isIdentifierStart c with
    | true => simp [runsOn_word start]
    | false =>
      cases number : startsNumber c w with
      | true => simp [runsOn_number number]
      | false =>
        cases quote : isQuote c with
        | true => exact runsOn_quote quote
        | false =>
          rw [runsOn_sign start number quote, List.append_nil]
          rintro (⟨_, b, s, none, _⟩ | ⟨p, _, longer, starts⟩)
          · cases none
          · have := starts.length_le
            omega

theorem IsSeparator.not_runsOn {t : List Char} {b : Char} (apart : IsSeparator b) :
    ¬ RunsOn t (b :: r) := by
  cases t with
  | nil => exact id
  | cons c w =>
    cases start : isIdentifierStart c with
    | true =>
      rw [runsOn_word start]
      rintro ⟨_, _, same, ⟨_, next⟩ | ⟨_, quote⟩⟩
      · cases same
        exact absurd next (by simp [apart.word])
      · cases same
        exact absurd quote (by simp [apart.quote])
    | false =>
      cases number : startsNumber c w with
      | true =>
        rw [runsOn_number number]
        rintro ⟨_, _, same, next⟩
        cases same
        exact absurd next (by simp [apart.continuesNumber])
      | false =>
        cases quote : isQuote c with
        | true => exact runsOn_quote quote
        | false =>
          rw [runsOn_sign start number quote]
          rintro (⟨_, _, _, same, digit⟩ | ⟨p, known, longer, starts⟩)
          · cases same
            exact absurd (isIdentifierChar_of_isDigit digit) (by simp [apart.word])
          · have front : c :: w ++ [b] <+: p :=
              List.prefix_of_prefix_length_le ⟨r, by simp⟩ starts (by simp at longer ⊢; omega)
            exact apart.plain p (List.mem_append.mpr known) (front.subset (by simp))

theorem not_runsOn_blank {t : List Char} {b : Char} (blank : isBlank b = true) :
    ¬ RunsOn t (b :: r) := (isSeparator_of_isBlank blank).not_runsOn

end CxxTrees.Token
