import CxxTrees.Proofs.Text.Trimmed
import CxxTrees.Proofs.Token.OpenLiteral

/-!
# Texts side by side

The tokens of two texts are those of the texts as they stand one behind the other,
unless the last token of the first reaches into the second: it runs on there, or it is
a quoted literal that was never closed, to which everything belongs.
-/

namespace CxxTrees.Token
open Text

variable {t u r s : List Char} {b : Char}

/-! ### Tokens at the end of a text -/

/-- A word that ends a text is plain, or a literal belongs to it. -/
theorem word_cases {c : Char} {w : List Char} (token : wordExtent c w = w.length) :
    w.all isIdentifierChar = true ∨
    ∃ v q z, w = v ++ q :: z ∧ c :: v ∈ encodingWords ∧ isQuote q = true ∧
      quotedExtent q z = z.length ∧
      ∀ r, wordExtent c (w ++ r) = v.length + 1 + quotedExtent q (z ++ r) := by
  obtain ⟨v, u, rfl, whole, ends, reach⟩ := exists_wordExtent c w
  rw [token] at reach
  cases u with
  | nil => exact .inl (by simpa using whole)
  | cons q z =>
    rw [List.length_append, List.length_cons] at reach
    obtain ⟨_, _, same, encodes, quote⟩ := literalExtent_pos_iff.mp
      (show 0 < literalExtent (c :: v) (q :: z) by omega)
    cases same
    rw [literalExtent_cons encodes quote] at reach
    refine .inr ⟨v, q, z, rfl, encodes, quote, by omega, fun r => ?_⟩
    rw [List.append_assoc, List.cons_append, wordExtent_literal encodes quote]
    omega

theorem le_quotedExtent {q : Char} {z : List Char} (token : quotedExtent q z = z.length)
    (r : List Char) : z.length ≤ quotedExtent q (z ++ r) := by
  cases closed : closes q z with
  | true => exact Nat.le_of_eq (token.symm.trans (quotedExtent_of_closes closed r).symm)
  | false =>
    cases r with
    | nil => exact Nat.le_of_eq (by rw [List.append_nil, token])
    | cons b s => exact Nat.le_of_lt (lt_quotedExtent closed b s)

theorem le_wordExtent {c : Char} {w : List Char} (whole : w.all isIdentifierChar = true)
    (r : List Char) : w.length ≤ wordExtent c (w ++ r) := by
  cases r with
  | nil => exact Nat.le.intro (wordExtent_append whole (by rintro _ _ ⟨⟩)).symm
  | cons b s =>
    cases next : isIdentifierChar b with
    | true => exact Nat.le_of_lt (lt_wordExtent whole next)
    | false =>
      exact Nat.le.intro (wordExtent_append whole (by rintro _ _ ⟨⟩; exact next)).symm

/-- A token is not cut shorter by what stands behind it. -/
theorem le_extent {c : Char} {w : List Char} (token : extent c w = w.length) (r : List Char) :
    w.length ≤ extent c (w ++ r) := by
  cases start : isIdentifierStart c with
  | true =>
    rw [extent_of_isIdentifierStart start] at token ⊢
    rcases word_cases token with whole | ⟨v, q, z, rfl, _, _, reach, extent⟩
    · exact le_wordExtent whole r
    · have := le_quotedExtent reach r
      rw [extent, List.length_append, List.length_cons]
      omega
  | false =>
    cases number : startsNumber c w with
    | true =>
      rw [extent_of_startsNumber (startsNumber_append _ number)]
      rw [extent_of_startsNumber number, ← List.append_nil w] at token
      rw [numberExtent_append (token.trans (by rw [List.append_nil]))]
      omega
    | false =>
      cases quote : isQuote c with
      | true =>
        rw [extent_of_isQuote quote] at token ⊢
        exact le_quotedExtent token r
      | false =>
        rw [← List.append_nil w] at token
        have alone := signExtent start number quote (token.trans (by rw [List.append_nil]))
        have := le_punctuatorExtent alone r
        cases number' : startsNumber c (w ++ r) with
        | true =>
          obtain ⟨-, rfl, -⟩ := eq_point_of_startsNumber number number'
          exact Nat.zero_le _
        | false =>
          rw [extent_of_sign start number' quote]
          simpa using this

/-- A token that ends a text and is no open literal is a token in front of a blank, too. -/
theorem stands_blank (token : Stands t []) (closed : ¬ IsOpenLiteral t) : Stands t [' '] := by
  obtain ⟨c, w, rfl, visible, reach⟩ := token
  refine ⟨c, w, rfl, visible, ?_⟩
  have apart : ¬ RunsOn (c :: w) [' '] := not_runsOn_blank rfl
  cases start : isIdentifierStart c with
  | true =>
    rw [extent_of_isIdentifierStart start] at reach ⊢
    rw [List.append_nil] at reach
    rcases word_cases reach with whole | ⟨v, q, z, rfl, encodes, quote, whole, extent⟩
    · rw [wordExtent_append whole]
      · rfl
      · rintro _ _ ⟨⟩
        decide
    · cases unclosed : closes q z with
      | true =>
        rw [extent, quotedExtent_of_closes unclosed, whole, List.length_append, List.length_cons]
        omega
      | false => exact absurd (.mk (.inr encodes) quote unclosed) closed
  | false =>
    cases number : startsNumber c w with
    | true =>
      rw [extent_of_startsNumber (startsNumber_append _ number)] at reach ⊢
      exact (numberExtent_iff number reach).mpr apart
    | false =>
      cases quote : isQuote c with
      | true =>
        rw [extent_of_isQuote quote] at reach ⊢
        rw [List.append_nil] at reach
        cases unclosed : closes c w with
        | true => rw [quotedExtent_of_closes unclosed, reach]
        | false => exact absurd (.mk (.inl rfl) quote unclosed) closed
      | false => exact (signExtent_iff start number quote reach).mpr apart

/-- A token that ends a text reaches into what comes behind it if it is an open literal or
runs on. -/
theorem stands_cons_iff (token : Stands t []) :
    Stands t (b :: s) ↔ ¬ (IsOpenLiteral t ∨ RunsOn t (b :: s)) := by
  by_cases unclosed : IsOpenLiteral t
  · exact iff_of_false (not_stands_of_open unclosed) (not_not_intro (.inl unclosed))
  · rw [stands_iff (by simp) (stands_blank token unclosed), or_iff_right unclosed]

/-- In front of any text a token is read at least as far. -/
theorem exists_scan_append (token : Stands t []) (r : List Char) :
    ∃ x more, x <+: r ∧ scan (t ++ r) = (t ++ x) :: more ∧ (x = [] → Stands t r) := by
  obtain ⟨c, w, rfl, visible, reach⟩ := token
  rw [List.append_nil] at reach
  obtain ⟨n, extent⟩ := Nat.le.dest (le_extent reach r)
  refine ⟨r.take n, (w ++ r).drop (w.length + n) |> scan, List.take_prefix n r, ?_, fun none => ?_⟩
  · rw [List.cons_append, scan_cons, if_neg (Bool.eq_false_iff.mp visible), ← extent,
      List.take_length_add_append]
    rfl
  · have := extent_le c (w ++ r)
    rw [List.length_append] at this
    have short := congrArg List.length none
    rw [List.length_take, List.length_nil] at short
    exact ⟨c, w, rfl, visible, by omega⟩

/-! ### Plain characters -/

/-- A prefix ends in front of a character that it does not have. -/
theorem isPrefix_of_notMem {p u : List Char} (absent : b ∉ p) : p <+: u ++ b :: s ↔ p <+: u := by
  refine ⟨fun front => ?_, fun front => front.trans (List.prefix_append u _)⟩
  rcases Nat.le_total p.length u.length with shorter | longer
  · exact List.prefix_of_prefix_length_le front (List.prefix_append u _) shorter
  · have next : u ++ [b] <+: p ∨ p = u := by
      rcases Nat.eq_or_lt_of_le longer with same | longer
      · exact .inr ((List.prefix_of_prefix_length_le front (List.prefix_append u _)
          (by omega)).eq_of_length same.symm)
      · exact .inl (List.prefix_of_prefix_length_le ⟨s, by simp⟩ front (by simp; omega))
    rcases next with next | rfl
    · exact absurd (next.subset (by simp)) absent
    · exact List.prefix_rfl

/-- Only the text next to a token decides whether it runs on. -/
theorem runsOn_append (more : r ≠ []) (plain : IsPlain b) :
    RunsOn t (r ++ b :: s) ↔ RunsOn t r := by
  obtain ⟨a, r, rfl⟩ := List.exists_cons_of_ne_nil more
  cases t with
  | nil => exact Iff.rfl
  | cons c w =>
    cases start : isIdentifierStart c with
    | true => simp [runsOn_word start]
    | false =>
      cases number : startsNumber c w with
      | true => simp [runsOn_number number]
      | false =>
        cases quote : isQuote c with
        | true => exact iff_of_false (runsOn_quote quote) (runsOn_quote quote)
        | false =>
          rw [runsOn_sign start number quote, runsOn_sign start number quote]
          refine or_congr (by simp) (exists_congr fun p => and_congr_right fun known => ?_)
          rw [← List.append_assoc, isPrefix_of_notMem (plain p (List.mem_append.mpr known))]

theorem stands_append (token : Stands t r) (more : r ≠ []) (plain : IsPlain b) :
    Stands t (r ++ b :: s) := by
  rw [stands_iff more token, runsOn_append more plain, ← stands_iff more token]
  exact token

/-! ### Two texts -/

/-- A text is empty, starts with a blank, or starts with a token. -/
theorem scan_induction {motive : List Char → Prop} (nil : motive [])
    (blank : ∀ c s, isBlank c = true → motive s → motive (c :: s))
    (token : ∀ t r, Stands t r → motive r → motive (t ++ r)) : ∀ s, motive s
  | [] => nil
  | c :: s => by
    cases visible : isBlank c with
    | true => exact blank c s visible (scan_induction nil blank token s)
    | false =>
      have reach := extent_le c s
      have stands : Stands (c :: s.take (extent c s)) (s.drop (extent c s)) :=
        ⟨c, _, rfl, visible, by rw [List.take_append_drop, List.length_take]; omega⟩
      have rest := scan_induction nil blank token (s.drop (extent c s))
      simpa using token _ _ stands rest
termination_by s => s.length
decreasing_by all_goals simp +arith

/-- The text `u` ends in its last token `t`, with no blank behind that. -/
inductive EndsIn : List Char → List Char → Prop where
  | last {t : List Char} (token : Stands t []) : EndsIn t t
  | blank {c : Char} {u t : List Char} (blank : isBlank c = true) (ends : EndsIn u t) :
    EndsIn (c :: u) t
  | token {first u t : List Char} (token : Stands first u) (ends : EndsIn u t) :
    EndsIn (first ++ u) t

/-- The token that `u` ends in is another one where `r` follows. -/
def ReachesInto (u r : List Char) : Prop :=
  ∃ t, EndsIn u t ∧ r ≠ [] ∧ (IsOpenLiteral t ∨ RunsOn t r)

theorem ReachesInto.ne_nil (reaches : ReachesInto u r) : r ≠ [] := by
  obtain ⟨_, _, more, _⟩ := reaches
  exact more

/-- Texts are cut each on its own, unless the first reaches into the second. -/
theorem scan_append (plain : IsPlain b) (apart : ¬ ReachesInto u (b :: s)) :
    scan (u ++ b :: s) = scan u ++ scan (b :: s) := by
  induction u using scan_induction with
  | nil => rfl
  | blank c u visible ih =>
    rw [List.cons_append, scan_cons, scan_cons c u, if_pos visible, if_pos visible]
    exact ih fun ⟨t, ends, reaches⟩ => apart ⟨t, .blank visible ends, reaches⟩
  | token t r token ih =>
    have rest := ih fun ⟨t', ends, reaches⟩ => apart ⟨t', .token token ends, reaches⟩
    have next : Stands t (r ++ b :: s) := by
      by_cases more : r = []
      · subst more
        rw [List.append_nil] at apart
        exact (stands_cons_iff token).mpr fun reaches =>
          apart ⟨t, .last token, by simp, reaches⟩
      · exact stands_append token more plain
    rw [List.append_assoc, scan_of_stands next, scan_of_stands token, rest, List.cons_append]

theorem EndsIn.ne_nil (ends : EndsIn u t) : u ≠ [] := by
  induction ends with
  | last token =>
    obtain ⟨c, w, rfl, _⟩ := token
    exact List.cons_ne_nil c w
  | blank => exact List.cons_ne_nil _ _
  | token _ _ ih => exact List.append_ne_nil_of_right_ne_nil _ ih

theorem EndsIn.getLast?_eq (ends : EndsIn u t) : u.getLast? = t.getLast? := by
  induction ends with
  | last => rfl
  | blank _ ends ih => rw [List.getLast?_cons_of_ne_nil ends.ne_nil, ih]
  | token _ ends ih =>
    rw [List.getLast?_append, ← ih, List.getLast?_eq_some_getLast ends.ne_nil, Option.some_or]

theorem EndsIn.stands (ends : EndsIn u t) : Stands t [] := by
  induction ends with
  | last token => exact token
  | blank _ _ ih => exact ih
  | token _ _ ih => exact ih

/-- What follows a text is cut together with the token that this ends in. -/
theorem EndsIn.scan_append (ends : EndsIn u t) (plain : IsPlain b) :
    ∃ a, scan u = a ++ [t] ∧ ∀ s, scan (u ++ b :: s) = a ++ scan (t ++ b :: s) := by
  induction ends with
  | last token => exact ⟨[], by simpa [scan_nil] using scan_of_stands token, fun _ => rfl⟩
  | blank blank _ ih =>
    obtain ⟨a, cut, more⟩ := ih
    refine ⟨a, by rwa [scan_cons, if_pos blank], fun s => ?_⟩
    rw [List.cons_append, scan_cons, if_pos blank, more s]
  | token token ends ih =>
    obtain ⟨a, cut, more⟩ := ih
    refine ⟨_ :: a, by rw [scan_of_stands token, cut, List.cons_append], fun s => ?_⟩
    rw [List.append_assoc, scan_of_stands (stands_append token ends.ne_nil plain), more s,
      List.cons_append]

/-! ### Texts that leave a literal open -/

def LeavesOpen (u : List Char) : Prop := ∃ t ∈ scan u, IsOpenLiteral t

theorem ne_nil_of_leavesOpen (unclosed : LeavesOpen u) : u ≠ [] := by
  rintro rfl
  obtain ⟨t, member, _⟩ := unclosed
  cases member

/-- Only the last token can be an open literal, and the text ends in it. -/
theorem endsIn_of_open {a rest : List (List Char)} (cut : scan u = a ++ t :: rest)
    (unclosed : IsOpenLiteral t) : EndsIn u t ∧ rest = [] := by
  induction u using scan_induction generalizing a with
  | nil => simp [scan_nil] at cut
  | blank c u blank ih =>
    rw [scan_cons, if_pos blank] at cut
    exact (ih cut).imp_left (.blank blank)
  | token first u token ih =>
    rw [scan_of_stands token] at cut
    cases a with
    | nil =>
      obtain ⟨rfl, rfl⟩ := List.cons.inj cut
      cases u with
      | nil => exact ⟨by simpa using EndsIn.last token, rfl⟩
      | cons b u => exact absurd token (not_stands_of_open unclosed)
    | cons _ a =>
      obtain ⟨rfl, rest'⟩ := List.cons.inj cut
      exact (ih rest').imp_left (.token token)

theorem leavesOpen_iff : LeavesOpen u ↔ ∃ t, EndsIn u t ∧ IsOpenLiteral t := by
  constructor
  · rintro ⟨t, member, unclosed⟩
    obtain ⟨a, rest, cut⟩ := List.append_of_mem member
    exact ⟨t, (endsIn_of_open cut unclosed).1, unclosed⟩
  · rintro ⟨t, ends, unclosed⟩
    obtain ⟨a, cut, _⟩ := ends.scan_append isSeparator_comma.plain
    exact ⟨t, by simp [cut], unclosed⟩

/-- In front of a separator nothing but an open literal reaches further. -/
theorem reachesInto_separator_iff (apart : IsSeparator b) :
    ReachesInto u (b :: s) ↔ LeavesOpen u := by
  rw [leavesOpen_iff]
  refine exists_congr fun t => and_congr_right fun _ => ?_
  simp [apart.not_runsOn]

theorem scan_append_separator (apart : IsSeparator b) (closed : ¬ LeavesOpen u) :
    scan (u ++ b :: s) = scan u ++ scan (b :: s) :=
  scan_append apart.plain ((not_congr (reachesInto_separator_iff apart)).mpr closed)

/-! ### Trimmed texts -/

theorem scan_blanks {gap : List Char} (blank : gap.all isBlank = true) (u : List Char) :
    scan (gap ++ u) = scan u := by
  induction gap with
  | nil => rfl
  | cons c gap ih =>
    obtain ⟨first, rest⟩ : isBlank c = true ∧ gap.all isBlank = true := by simpa using blank
    rw [List.cons_append, scan_cons, if_pos first, ih rest]

/-- Whatever is not blank starts a token. -/
theorem scan_eq_nil_iff : scan u = [] ↔ u.all isBlank = true := by
  induction u with
  | nil => exact iff_of_true rfl rfl
  | cons c u ih => cases blank : isBlank c <;> simp [scan_cons, blank, ih]

theorem scan_append_blanks {gap : List Char} (blank : gap.all isBlank = true)
    (closed : ¬ LeavesOpen u) : scan (u ++ gap) = scan u := by
  cases gap with
  | nil => rw [List.append_nil]
  | cons c gap =>
    have first : isBlank c = true := by simp_all
    have none := scan_blanks blank []
    rw [List.append_nil] at none
    rw [scan_append_separator (isSeparator_of_isBlank first) closed, none, scan_nil,
      List.append_nil]

theorem leavesOpen_append_blanks {gap : List Char} (blank : gap.all isBlank = true) :
    LeavesOpen (u ++ gap) ↔ LeavesOpen u := by
  constructor
  · intro unclosed
    by_cases closed : LeavesOpen u
    · exact closed
    · rwa [LeavesOpen, scan_append_blanks blank closed] at unclosed
  · intro unclosed
    cases gap with
    | nil => rwa [List.append_nil]
    | cons c gap =>
      have first : isBlank c = true := by simp_all
      obtain ⟨t, ends, unclosed⟩ := leavesOpen_iff.mp unclosed
      obtain ⟨a, _, cut⟩ := ends.scan_append (isSeparator_of_isBlank first).plain
      have longer := unclosed.append_blanks blank
      have one := scan_of_stands (stands_of_open longer)
      rw [List.append_nil] at one
      exact ⟨_, by rw [cut, one]; simp, longer⟩

theorem exists_scan_trim (u : List Char) :
    ∃ back, back.all isBlank = true ∧ scan u = scan (trim u ++ back) ∧
      (u.getLast?.any isBlank = false → back = []) := by
  obtain ⟨front, back, parts, blankFront, blankBack⟩ := exists_trim u
  have same : scan u = scan (trim u ++ back) :=
    (congrArg scan parts).trans (scan_blanks blankFront _)
  refine ⟨back, blankBack, same, fun visible => ?_⟩
  cases gap : back.getLast? with
  | none => exact List.getLast?_eq_none_iff.mp gap
  | some b =>
    have blank : isBlank b = true := List.all_eq_true.mp blankBack b (List.mem_of_getLast? gap)
    rw [parts, ← List.append_assoc, List.getLast?_append, gap] at visible
    simp [blank] at visible

theorem leavesOpen_trim (u : List Char) : LeavesOpen (trim u) ↔ LeavesOpen u := by
  obtain ⟨back, blank, same, _⟩ := exists_scan_trim u
  rw [← leavesOpen_append_blanks blank, LeavesOpen, LeavesOpen, same]

/-- Trimming keeps the tokens, unless the blanks behind a text are inside of a literal. -/
theorem scan_trim_iff (u : List Char) :
    scan (trim u) = scan u ↔ ¬ (LeavesOpen u ∧ u.getLast?.any isBlank = true) := by
  constructor
  · rintro trimmed ⟨⟨t, member, unclosed⟩, blank⟩
    obtain ⟨a, rest, cut⟩ := List.append_of_mem member
    have long := (endsIn_of_open cut unclosed).1
    have short := (endsIn_of_open (trimmed.trans cut) unclosed).1
    have last : u.getLast? = (trim u).getLast? := long.getLast?_eq.trans short.getLast?_eq.symm
    have visible := last_trim u
    rw [← last, blank] at visible
    cases visible
  · intro kept
    obtain ⟨back, blank, same, none⟩ := exists_scan_trim u
    by_cases unclosed : LeavesOpen (trim u)
    · have visible : u.getLast?.any isBlank = false :=
        Bool.eq_false_iff.mpr fun blank => kept ⟨(leavesOpen_trim u).mp unclosed, blank⟩
      rw [same, none visible, List.append_nil]
    · rw [same, scan_append_blanks blank unclosed]

end CxxTrees.Token
