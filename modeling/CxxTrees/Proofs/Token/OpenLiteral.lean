import CxxTrees.Proofs.Token.Standing

/-!
# Literals that are not closed

A quoted literal without its closing quote takes everything behind it along. It is
a token where the text ends, and in front of nothing else.
-/

namespace CxxTrees.Token
open Text

/-- Whether a literal that was opened by `q` is closed in the text behind that. -/
def closes (q : Char) : List Char → Bool
  | [] => false
  | ['\\'] => false
  | '\\' :: _ :: cs => closes q cs
  | c :: cs => c == q || closes q cs

/-- A quoted literal without its closing quote. -/
inductive IsOpenLiteral : List Char → Prop where
  | mk {word v : List Char} {q : Char} (encodes : word = [] ∨ word ∈ encodingWords)
      (quote : isQuote q = true) (unclosed : closes q v = false) : IsOpenLiteral (word ++ q :: v)

/-- A literal is read one character after the other, an escaped one together with its backslash. -/
theorem literal_induction {motive : List Char → Prop} (nil : motive []) (slash : motive ['\\'])
    (escaped : ∀ x v, motive v → motive ('\\' :: x :: v))
    (plain : ∀ c v, c ≠ '\\' → motive v → motive (c :: v)) : ∀ v, motive v
  | [] => nil
  | [c] => by
    by_cases same : c = '\\'
    · exact same ▸ slash
    · exact plain c [] same nil
  | c :: x :: v => by
    by_cases same : c = '\\'
    · exact same ▸ escaped x v (literal_induction nil slash escaped plain v)
    · exact plain c (x :: v) same (literal_induction nil slash escaped plain (x :: v))

theorem closes_cons {q c : Char} {s : List Char} (plain : c ≠ '\\') :
    closes q (c :: s) = (c == q || closes q s) := by
  rw [closes]
  · exact fun same => absurd same plain
  · exact fun _ _ same => absurd same plain

/-- A literal reaches up to its closing quote, whatever stands behind that. -/
theorem quotedExtent_of_closes {q : Char} {v : List Char} (closed : closes q v = true)
    (r : List Char) : quotedExtent q (v ++ r) = quotedExtent q v := by
  induction v using literal_induction with
  | nil => cases closed
  | slash => cases closed
  | escaped x v ih => simp only [List.cons_append, quotedExtent, ih closed]
  | plain c v plain ih =>
    rw [List.cons_append, quotedExtent_cons plain, quotedExtent_cons plain]
    split
    · rfl
    · rename_i other
      rw [ih (by simpa [closes_cons plain, other] using closed)]

/-- A literal that is not closed goes on in what stands behind it. -/
theorem lt_quotedExtent {q : Char} {v : List Char} (unclosed : closes q v = false) (b : Char)
    (s : List Char) : v.length < quotedExtent q (v ++ b :: s) := by
  induction v using literal_induction with
  | nil => exact quotedExtent_pos (List.cons_ne_nil b s)
  | slash => simp [quotedExtent]
  | escaped x v ih =>
    have := ih unclosed
    simp only [List.cons_append, quotedExtent, List.length_cons]
    omega
  | plain c v plain ih =>
    rw [closes_cons plain, Bool.or_eq_false_iff] at unclosed
    have := ih unclosed.2
    rw [List.cons_append, quotedExtent_cons plain, if_neg (by simpa using unclosed.1)]
    simp only [List.length_cons]
    omega

theorem quotedExtent_of_open {q : Char} {v : List Char} (unclosed : closes q v = false) :
    quotedExtent q v = v.length := by
  induction v using literal_induction with
  | nil => rfl
  | slash => rfl
  | escaped x v ih => simp only [quotedExtent, ih unclosed, List.length_cons]
  | plain c v plain ih =>
    rw [closes_cons plain, Bool.or_eq_false_iff] at unclosed
    rw [quotedExtent_cons plain, if_neg (by simpa using unclosed.1), ih unclosed.2,
      List.length_cons]

variable {t s : List Char} {b : Char}

theorem extent_of_open (unclosed : IsOpenLiteral t) :
    ∃ c w q v, t = c :: w ∧ isBlank c = false ∧ closes q v = false ∧
      ∀ r, extent c (w ++ r) + v.length = w.length + quotedExtent q (v ++ r) := by
  obtain ⟨encodes, quote, unclosed⟩ := unclosed
  rename_i word v q
  rcases encodes with rfl | encodes
  · have visible : isBlank q = false := by
      rcases isQuote_iff.mp quote with rfl | rfl <;> rfl
    refine ⟨q, v, q, v, rfl, visible, unclosed, fun r => ?_⟩
    rw [extent_of_isQuote quote]
    omega
  · have first : ∀ t ∈ encodingWords, t ≠ [] ∧
        t.head?.all (fun c => isIdentifierStart c && !isBlank c) = true := by decide
    obtain ⟨some_, front⟩ := first word encodes
    obtain ⟨c, w, rfl⟩ := List.exists_cons_of_ne_nil some_
    obtain ⟨start, visible⟩ : isIdentifierStart c = true ∧ isBlank c = false := by simpa using front
    refine ⟨c, w ++ q :: v, q, v, rfl, visible, unclosed, fun r => ?_⟩
    rw [extent_of_isIdentifierStart start, List.append_assoc, List.cons_append,
      wordExtent_literal encodes quote, List.length_append, List.length_cons]
    omega

theorem stands_of_open (unclosed : IsOpenLiteral t) : Stands t [] := by
  obtain ⟨c, w, q, v, rfl, visible, unclosed, extent⟩ := extent_of_open unclosed
  refine ⟨c, w, rfl, visible, ?_⟩
  have := extent []
  rw [List.append_nil v, quotedExtent_of_open unclosed] at this
  omega

theorem not_stands_of_open (unclosed : IsOpenLiteral t) : ¬ Stands t (b :: s) := by
  obtain ⟨c, w, q, v, rfl, visible, unclosed, extent⟩ := extent_of_open unclosed
  rintro ⟨_, _, same, _, reach⟩
  cases same
  have := extent (b :: s)
  have := lt_quotedExtent unclosed b s
  omega

/-- What stands behind a literal that is not closed is inside of it, unless it closes it. -/
theorem closes_blanks {q : Char} {v gap : List Char} (quote : isQuote q = true)
    (unclosed : closes q v = false) (blank : gap.all isBlank = true) :
    closes q (v ++ gap) = false := by
  have other : ∀ c ∈ gap, c ≠ '\\' ∧ c ≠ q := by
    intro c member
    have blank := List.all_eq_true.mp blank c member
    refine ⟨ne_of_isBlank blank rfl, ne_of_isBlank blank ?_⟩
    rcases isQuote_iff.mp quote with rfl | rfl <;> rfl
  have none : ∀ gap' : List Char, gap' <:+ gap → closes q gap' = false := by
    intro gap' suffix
    induction gap' with
    | nil => rfl
    | cons c gap' ih =>
      obtain ⟨plain, open_⟩ := other c (suffix.subset List.mem_cons_self)
      rw [closes_cons plain, ih ((List.suffix_cons c gap').trans suffix)]
      simpa using open_
  induction v using literal_induction with
  | nil => exact none gap List.suffix_rfl
  | slash =>
    cases gap with
    | nil => rfl
    | cons c gap => exact none gap (List.suffix_cons c gap)
  | escaped x v ih => exact ih unclosed
  | plain c v plain ih =>
    rw [closes_cons plain, Bool.or_eq_false_iff] at unclosed
    rw [List.cons_append, closes_cons plain, unclosed.1, ih unclosed.2]
    rfl

theorem IsOpenLiteral.append_blanks {gap : List Char} (unclosed : IsOpenLiteral t)
    (blank : gap.all isBlank = true) : IsOpenLiteral (t ++ gap) := by
  obtain ⟨encodes, quote, unclosed⟩ := unclosed
  rw [List.append_assoc, List.cons_append]
  exact .mk encodes quote (closes_blanks quote unclosed blank)

end CxxTrees.Token
