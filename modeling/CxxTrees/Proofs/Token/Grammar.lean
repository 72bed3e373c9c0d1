import Mathlib.Data.List.Chain
import Mathlib.Tactic.Tauto
import CxxTrees.Proofs.Token.SideBySide
import CxxTrees.Token.Text

/-!
# The lexical grammar

A grammar of tokens that does not say how they are read, and the segmentation of a text
in which every token is the longest one of the grammar at its place. Scanning is this
segmentation, and there is no other.
-/

namespace CxxTrees.Token
open Text

variable {c q : Char} {t r s w v : List Char}

/-! ### Lexemes -/

/-- Inside of quotes there is no closing one, unless a backslash takes it along. -/
inductive Inside (q : Char) : List Char → Prop where
  | nil : Inside q []
  | escaped {x : Char} {w : List Char} (rest : Inside q w) : Inside q ('\\' :: x :: w)
  | plain {c : Char} {w : List Char} (other : c ≠ q) (bare : c ≠ '\\') (rest : Inside q w) :
    Inside q (c :: w)

/-- Behind an opening quote and in front of `r`, a literal ends with its closing quote, or with
the text, then perhaps with a backslash that finds nothing to take along. -/
inductive EndsLiteral (q : Char) : List Char → List Char → Prop where
  | closed {w r : List Char} (inside : Inside q w) : EndsLiteral q (w ++ [q]) r
  | unclosed {w : List Char} (inside : Inside q w) : EndsLiteral q w []
  | escaping {w : List Char} (inside : Inside q w) : EndsLiteral q (w ++ ['\\']) []

/-- A number that was read up to `last` goes on with `c`. -/
def GoesOn (last c : Char) : Prop :=
  isIdentifierChar c = true ∨ c = '.' ∨ c = '\x27' ∨
    (c = '+' ∨ c = '-') ∧ (last = 'e' ∨ last = 'E' ∨ last = 'p' ∨ last = 'P')

/-- The tokens that are possible in front of a text, where words begin as `start` says. -/
inductive Lexeme (start : Char → Bool) : List Char → List Char → Prop where
  | word {c : Char} {w r : List Char} (first : start c = true)
    (whole : w.all isIdentifierChar = true) : Lexeme start (c :: w) r
  | encoded {c q : Char} {w v r : List Char} (encodes : c :: w ∈ encodingWords)
    (quote : isQuote q = true) (ends : EndsLiteral q v r) : Lexeme start (c :: (w ++ q :: v)) r
  | number {c : Char} {w r : List Char} (digit : c.isDigit = true)
    (goes : (c :: w).IsChain GoesOn) : Lexeme start (c :: w) r
  | fraction {d : Char} {w r : List Char} (digit : d.isDigit = true)
    (goes : (d :: w).IsChain GoesOn) : Lexeme start ('.' :: d :: w) r
  | literal {q : Char} {v r : List Char} (quote : isQuote q = true) (ends : EndsLiteral q v r) :
    Lexeme start (q :: v) r
  | punctuator {c : Char} {p r : List Char} (known : IsPunctuator (c :: p)) :
    Lexeme start (c :: p) r
  | single {c : Char} {r : List Char} (visible : isBlank c = false) : Lexeme start [c] r

/-- In front of `r` the lexeme `t` is the longest at its place. -/
def IsLongest (start : Char → Bool) (t r : List Char) : Prop :=
  Lexeme start t r ∧ ∀ t' r', t' ++ r' = t ++ r → Lexeme start t' r' → t'.length ≤ t.length

/-- A text made of blanks and the longest lexemes `ts`. -/
inductive Segments (start : Char → Bool) : List Char → List (List Char) → Prop where
  | blanks {gap : List Char} (blank : gap.all isBlank = true) : Segments start gap []
  | token {gap t r : List Char} {ts : List (List Char)} (blank : gap.all isBlank = true)
    (longest : IsLongest start t r) (rest : Segments start r ts) :
    Segments start (gap ++ (t ++ r)) (t :: ts)

/-! ### Quoted literals -/

theorem ne_backslash_of_isQuote (quote : isQuote q = true) : q ≠ '\\' := by
  rcases isQuote_iff.mp quote with rfl | rfl <;> decide

theorem quotedExtent_of_inside (inside : Inside q w) (r : List Char) :
    quotedExtent q (w ++ r) = w.length + quotedExtent q r := by
  induction inside with
  | nil => simp
  | escaped _ ih =>
    simp only [List.cons_append, quotedExtent, ih, List.length_cons]
    omega
  | plain other bare _ ih =>
    rw [List.cons_append, quotedExtent_cons bare, if_neg other, ih, List.length_cons]
    omega

/-- A literal is read as far as it goes. -/
theorem quotedExtent_of_endsLiteral (quote : isQuote q = true) (ends : EndsLiteral q v r) :
    quotedExtent q (v ++ r) = v.length := by
  cases ends with
  | closed inside =>
    rw [List.append_assoc, quotedExtent_of_inside inside, List.singleton_append,
      quotedExtent_cons (ne_backslash_of_isQuote quote), if_pos rfl, List.length_append]
    rfl
  | unclosed inside => exact quotedExtent_of_inside inside []
  | escaping inside =>
    rw [List.append_nil, quotedExtent_of_inside inside, List.length_append]
    rfl

theorem EndsLiteral.escaped {x : Char} (ends : EndsLiteral q v r) :
    EndsLiteral q ('\\' :: x :: v) r := by
  cases ends with
  | closed inside => exact .closed (.escaped inside)
  | unclosed inside => exact .unclosed (.escaped inside)
  | escaping inside => exact .escaping (.escaped inside)

theorem EndsLiteral.plain (other : c ≠ q) (bare : c ≠ '\\') (ends : EndsLiteral q v r) :
    EndsLiteral q (c :: v) r := by
  cases ends with
  | closed inside => exact .closed (.plain other bare inside)
  | unclosed inside => exact .unclosed (.plain other bare inside)
  | escaping inside => exact .escaping (.plain other bare inside)

/-- What is read behind an opening quote ends a literal. -/
theorem endsLiteral_take (q : Char) (s : List Char) :
    EndsLiteral q (s.take (quotedExtent q s)) (s.drop (quotedExtent q s)) := by
  induction s using literal_induction with
  | nil => exact .unclosed .nil
  | slash => exact .escaping .nil
  | escaped x v ih => exact ih.escaped
  | plain c v bare ih =>
    rw [quotedExtent_cons bare]
    split
    · subst q
      exact .closed .nil
    · rename_i other
      exact ih.plain other bare

/-! ### Numbers -/

theorem goesOn_iff {last : Char} : GoesOn last c ↔ continuesNumber last c = true := by
  simp only [GoesOn, continuesNumber, Bool.or_eq_true, Bool.and_eq_true, beq_iff_eq]
  tauto

theorem isChain_take (c : Char) (s : List Char) :
    (c :: s.take (numberExtent c s)).IsChain GoesOn := by
  fun_induction numberExtent c s with
  | case1 => simp
  | case2 last c s goes ih => exact .cons_cons (goesOn_iff.mpr goes) ih
  | case3 => simp

theorem le_numberExtent (goes : (c :: w).IsChain GoesOn) (r : List Char) :
    w.length ≤ numberExtent c (w ++ r) := by
  induction w generalizing c with
  | nil => exact Nat.zero_le _
  | cons d w ih =>
    obtain ⟨next, goes⟩ := List.isChain_cons_cons.mp goes
    have := ih goes
    simp only [List.cons_append, numberExtent, if_pos (goesOn_iff.mp next), List.length_cons]
    omega

/-! ### Tokens that are read -/

theorem lexeme_word (start : isIdentifierStart c = true) :
    Lexeme isIdentifierStart (c :: s.take (wordExtent c s)) (s.drop (wordExtent c s)) := by
  obtain ⟨w, r, rfl, whole, _, reach⟩ := exists_wordExtent c s
  rw [reach]
  by_cases literal : 0 < literalExtent (c :: w) r
  · obtain ⟨q, v, rfl, encodes, quote⟩ := literalExtent_pos_iff.mp literal
    have ends := endsLiteral_take q v
    rw [literalExtent_cons encodes quote, Nat.add_comm 1, List.take_length_add_append,
      List.drop_length_add_append]
    exact .encoded encodes quote ends
  · rw [Nat.eq_zero_of_not_pos literal, Nat.add_zero, List.take_left, List.drop_left]
    exact .word start whole

theorem lexeme_number (number : startsNumber c s = true) (r : List Char) :
    Lexeme isIdentifierStart (c :: s.take (numberExtent c s)) r := by
  have goes := isChain_take c s
  simp only [startsNumber, Bool.or_eq_true, Bool.and_eq_true, beq_iff_eq] at number
  rcases number with digit | ⟨rfl, digit⟩
  · exact .number digit goes
  · cases s with
    | nil => cases digit
    | cons d s =>
      have next : continuesNumber '.' d = true :=
        goesOn_iff.mp (.inl (isIdentifierChar_of_isDigit digit))
      rw [numberExtent, if_pos next, List.take_succ_cons] at goes ⊢
      exact .fraction digit (List.isChain_cons_cons.mp goes).2

theorem lexeme_sign (visible : isBlank c = false) (s r : List Char) :
    Lexeme isIdentifierStart (c :: s.take (punctuatorExtent (c :: s))) r := by
  have front {p : List Char} {n : Nat} (known : IsPunctuator p) (starts : p <+: c :: s)
      (length : p.length = n + 1) : Lexeme isIdentifierStart (c :: s.take n) r := by
    have same : p = c :: s.take n := by
      rw [← List.take_succ_cons, ← length]
      exact List.prefix_iff_eq_take.mp starts
    exact .punctuator (same ▸ known)
  rcases punctuatorExtent_cases (c :: s) with ⟨extent, p, known, starts⟩ |
    ⟨extent, _, p, known, starts⟩ | ⟨extent, _⟩
  · rw [extent]
    exact front (.inr known) starts (length_of_mem_punctuators3 known)
  · rw [extent]
    exact front (.inl known) starts (length_of_mem_punctuators2 known)
  · rw [extent]
    exact .single visible

/-- What is read of a text is a lexeme. -/
theorem lexeme_take (visible : isBlank c = false) (s : List Char) :
    Lexeme isIdentifierStart (c :: s.take (extent c s)) (s.drop (extent c s)) := by
  cases start : isIdentifierStart c with
  | true =>
    rw [extent_of_isIdentifierStart start]
    exact lexeme_word start
  | false =>
    cases number : startsNumber c s with
    | true =>
      rw [extent_of_startsNumber number]
      exact lexeme_number number _
    | false =>
      cases quote : isQuote c with
      | true =>
        rw [extent_of_isQuote quote]
        exact .literal quote (endsLiteral_take c s)
      | false =>
        rw [extent_of_sign start number quote]
        exact lexeme_sign visible s _

/-! ### No longer ones -/

theorem isIdentifierStart_of_encodes (encodes : c :: w ∈ encodingWords) :
    isIdentifierStart c = true := by
  have first : ∀ t ∈ encodingWords, t.head?.all isIdentifierStart = true := by decide
  exact first (c :: w) encodes

/-- Punctuators begin with a sign: no word, number or literal begins there. -/
theorem sign_of_punctuator {p : List Char} (known : IsPunctuator (c :: p)) (r : List Char) :
    isBlank c = false ∧ isIdentifierStart c = false ∧ startsNumber c (p ++ r) = false ∧
      isQuote c = false := by
  have signs : ∀ p ∈ punctuators2 ++ punctuators3, p.head?.all (fun c =>
      !isBlank c && !isIdentifierStart c && !isQuote c && !c.isDigit) ∧
      p.tail.head?.any (!·.isDigit) := by decide
  obtain ⟨first, second⟩ := signs (c :: p) (List.mem_append.mpr known)
  cases p with
  | nil => cases second
  | cons d p => simp_all [startsNumber]

/-- No lexeme reaches further than what is read. -/
theorem le_extent_of_lexeme (lexeme : Lexeme isIdentifierStart (c :: w) r) :
    w.length ≤ extent c (w ++ r) := by
  cases lexeme with
  | word start whole =>
    rw [extent_of_isIdentifierStart start]
    exact le_wordExtent whole r
  | encoded encodes quote ends =>
    rw [extent_of_isIdentifierStart (isIdentifierStart_of_encodes encodes), List.append_assoc,
      List.cons_append, wordExtent_literal encodes quote, quotedExtent_of_endsLiteral quote ends,
      List.length_append, List.length_cons]
    omega
  | number digit goes =>
    have number : startsNumber c (w ++ r) = true := by simp [startsNumber, digit]
    rw [extent_of_startsNumber number]
    exact le_numberExtent goes r
  | fraction digit goes =>
    rename_i d w
    have number : startsNumber '.' (d :: w ++ r) = true := by simp [startsNumber, digit]
    rw [extent_of_startsNumber number]
    refine le_numberExtent (List.isChain_cons_cons.mpr ⟨?_, goes⟩) r
    exact .inl (isIdentifierChar_of_isDigit digit)
  | literal quote ends =>
    rw [extent_of_isQuote quote]
    exact Nat.le_of_eq (quotedExtent_of_endsLiteral quote ends).symm
  | punctuator known =>
    obtain ⟨_, start, number, quote⟩ := sign_of_punctuator known r
    rw [extent_of_sign start number quote]
    by_cases single : w = []
    · subst single
      exact Nat.zero_le _
    · apply (exists_punctuator_iff (List.length_pos_iff.mpr single)).mp
      exact ⟨c :: w, known, Nat.lt_succ_self _, List.prefix_append (c :: w) r⟩
  | single visible => exact Nat.zero_le _

theorem visible_of_lexeme (lexeme : Lexeme isIdentifierStart (c :: w) r) : isBlank c = false := by
  have word (next : isIdentifierChar c = true) : isBlank c = false := by
    by_contra blank
    rw [isIdentifierChar_of_isBlank (Bool.not_eq_false _ ▸ blank)] at next
    cases next
  cases lexeme with
  | word start _ => exact word (isIdentifierChar_of_isIdentifierStart start)
  | encoded encodes _ _ =>
    exact word (isIdentifierChar_of_isIdentifierStart (isIdentifierStart_of_encodes encodes))
  | number digit _ => exact word (isIdentifierChar_of_isDigit digit)
  | fraction _ _ => rfl
  | literal quote _ => rcases isQuote_iff.mp quote with rfl | rfl <;> rfl
  | punctuator known => exact (sign_of_punctuator known r).1
  | single visible => exact visible

theorem Lexeme.ne_nil {start : Char → Bool} (lexeme : Lexeme start t r) : t ≠ [] := by
  cases lexeme <;> exact List.cons_ne_nil _ _

/-- A token is read whole in front of a text just if it is the longest lexeme there. -/
theorem isLongest_iff_stands : IsLongest isIdentifierStart t r ↔ Stands t r := by
  constructor
  · rintro ⟨lexeme, longest⟩
    obtain ⟨c, w, rfl⟩ := List.exists_cons_of_ne_nil lexeme.ne_nil
    have visible := visible_of_lexeme lexeme
    have reach := le_extent_of_lexeme lexeme
    have bound := longest _ _ (by simp) (lexeme_take visible (w ++ r))
    have inside := extent_le c (w ++ r)
    simp only [List.length_cons, List.length_take] at bound
    exact ⟨c, w, rfl, visible, by omega⟩
  · rintro ⟨c, w, rfl, visible, reach⟩
    have lexeme := lexeme_take visible (w ++ r)
    rw [reach, List.take_left, List.drop_left] at lexeme
    refine ⟨lexeme, fun t' r' same other => ?_⟩
    obtain ⟨c', w', rfl⟩ := List.exists_cons_of_ne_nil other.ne_nil
    obtain ⟨rfl, rest⟩ : c' = c ∧ w' ++ r' = w ++ r := List.cons.inj same
    have bound := le_extent_of_lexeme other
    rw [rest, reach] at bound
    exact Nat.succ_le_succ bound

/-! ### Segmentations -/

theorem Segments.cons_blank {start : Char → Bool} {ts : List (List Char)}
    (blank : isBlank c = true) (segments : Segments start s ts) : Segments start (c :: s) ts := by
  cases segments with
  | blanks gap => exact .blanks (by simp [blank, gap])
  | token gap longest rest =>
    rw [← List.cons_append]
    exact .token (by simp [blank, gap]) longest rest

theorem Segments.ne_nil {start : Char → Bool} {ts : List (List Char)}
    (segments : Segments start s ts) : ∀ t ∈ ts, t ≠ [] := by
  induction segments with
  | blanks => exact nofun
  | token _ longest _ ih => exact List.forall_mem_cons.mpr ⟨longest.1.ne_nil, ih⟩

theorem segments_scan (s : List Char) : Segments isIdentifierStart s (scan s) := by
  induction s using scan_induction with
  | nil => exact .blanks rfl
  | blank c s blank ih =>
    rw [scan_cons, if_pos blank]
    exact ih.cons_blank blank
  | token t r stands ih =>
    rw [scan_of_stands stands]
    exact @Segments.token _ [] t r _ rfl (isLongest_iff_stands.mpr stands) ih

theorem scan_of_segments {ts : List (List Char)} (segments : Segments isIdentifierStart s ts) :
    scan s = ts := by
  induction segments with
  | blanks blank => simpa [scan_nil] using scan_blanks blank []
  | token blank longest _ ih =>
    rw [scan_blanks blank, scan_of_stands (isLongest_iff_stands.mp longest), ih]

/-- A text consists of its tokens and the blanks around them. No token is empty, each is the
longest lexeme at its place, and no other segmentation is like that. -/
theorem segments_ofText (s : List Char) :
    Segments isIdentifierStart s ((ofText s).map String.toList) ∧ (∀ t ∈ ofText s, t ≠ "") ∧
      ∀ ts, Segments isIdentifierStart s ts → ts = (ofText s).map String.toList := by
  rw [map_toList_ofText]
  refine ⟨segments_scan s, fun token member empty => ?_, fun ts segments => ?_⟩
  · obtain ⟨t, scanned, rfl⟩ := List.mem_map.mp member
    exact (segments_scan s).ne_nil t scanned (by simpa using congrArg String.toList empty)
  · exact (scan_of_segments segments).symm

/-- Tokens are the longest lexemes of the grammar in which a word begins with any of the
characters that it goes on with. -/
def BeginsWordsAnywhere : Prop :=
  ∀ s, Segments isIdentifierChar s ((ofText s).map String.toList)

theorem Segments.exists_longest {start : Char → Bool} {ts : List (List Char)}
    (visible : isBlank c = false) (segments : Segments start (c :: s) (t :: ts)) :
    ∃ r, t ++ r = c :: s ∧ IsLongest start t r := by
  generalize whole : c :: s = u at segments ⊢
  cases segments with
  | @token gap _ r _ blank longest _ =>
    cases gap with
    | nil => exact ⟨r, rfl, longest⟩
    | cons b gap =>
      obtain ⟨rfl, _⟩ := List.cons.inj whole
      simp [visible] at blank

/-- A superscript goes on with a word and begins none. -/
theorem not_beginsWordsAnywhere : ¬ BeginsWordsAnywhere := by
  intro cuts
  have segments : Segments isIdentifierChar ['²', 'a'] [['²'], ['a']] := cuts ['²', 'a']
  obtain ⟨r, same, _, longest⟩ := segments.exists_longest rfl
  have word : Lexeme isIdentifierChar ['²', 'a'] [] := .word (by decide) (by decide)
  exact absurd (longest _ _ same.symm word) (by decide)

end CxxTrees.Token
