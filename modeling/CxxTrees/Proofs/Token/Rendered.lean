import CxxTrees.Proofs.Token.Standing
import CxxTrees.Token.Text

/-!
# Rendered tokens, read again

The renderer keeps two tokens apart by the characters that meet. `Fuses` lists
the neighbours for which that is not enough; `ofText_toText_iff` says that tokens
come back from their rendered text exactly where there are none of these.
-/

namespace CxxTrees.Token
open Text
variable {c : Char} {w r r₀ : List Char}

/-! ### The text behind a token -/

theorem exists_stands {s t : List Char} {ts : List (List Char)} (cut : scan s = t :: ts) :
    ∃ r, Stands t r ∧ scan r = ts := by
  induction s with
  | nil => cases cut
  | cons c s ih =>
    rw [scan_cons] at cut
    split at cut
    · exact ih cut
    · rename_i visible
      cases cut
      refine ⟨s.drop (extent c s), ⟨c, _, rfl, by simpa using visible, ?_⟩, rfl⟩
      rw [List.take_append_drop, List.length_take]
      have := extent_le c s
      omega

/-- What is written behind `t` if the tokens `ts` follow it. -/
def behind (t : List Char) (ts : List (List Char)) : List Char :=
  match ts with
  | [] => []
  | u :: us => (if needsSpace t u then [' '] else []) ++ render (u :: us)

theorem render_cons (t : List Char) (ts : List (List Char)) :
    render (t :: ts) = t ++ behind t ts := by
  cases ts with
  | nil => simp [render, behind]
  | cons u us => simp [render, behind]

theorem scan_behind (t : List Char) (ts : List (List Char)) :
    scan (behind t ts) = scan (render ts) := by
  cases ts with
  | nil => rfl
  | cons u us =>
    rw [behind]
    split
    · exact scan_cons ' ' _
    · rfl

theorem stands_behind_iff {t r : List Char} {ts : List (List Char)} (stands : Stands t r)
    (rest : scan r = ts) : Stands t (behind t ts) ↔ ¬ RunsOn t (behind t ts) := by
  by_cases last : r = []
  · subst last
    subst rest
    exact iff_of_true stands not_runsOn_nil
  · exact stands_iff last stands

/-- Rendered tokens are read again unless one of them runs on into those behind it. -/
theorem scan_render_iff_runsOn {s : List Char} {ts : List (List Char)} (tokens : scan s = ts) :
    scan (render ts) = ts ↔ ∀ t us, t :: us <:+ ts → ¬ RunsOn t (behind t us) := by
  induction ts generalizing s with
  | nil => simp [render, scan_nil]
  | cons t ts ih =>
    obtain ⟨r, stands, rest⟩ := exists_stands tokens
    have one := stands_behind_iff stands rest
    rw [render_cons]
    constructor
    · intro again t' us suffix
      obtain ⟨c, w, head, visible, _⟩ := stands
      obtain ⟨stands', rest'⟩ := stands_of_scan head visible again
      rcases List.suffix_cons_iff.mp suffix with same | later
      · cases same
        exact one.mp stands'
      · rw [scan_behind] at rest'
        exact (ih rest).mp rest' t' us later
    · intro apart
      have stands' := one.mpr (apart t ts List.suffix_rfl)
      have rest' := (ih rest).mpr fun t' us later => apart t' us (later.trans (List.suffix_cons t ts))
      rw [scan_of_stands stands', scan_behind, rest']


/-! ### Neighbours that fuse -/

/-- Tokens `t` and `us` behind it that are written without a space and read as others. -/
inductive Fuses : List Char → List (List Char) → Prop where
  /-- A number and what goes on with one, unless word characters meet: `1` and `.x`. -/
  | number {c b : Char} {w v : List Char} {us : List (List Char)}
      (number : startsNumber c w = true)
      (next : continuesNumber ((c :: w).getLast (List.cons_ne_nil c w)) b = true)
      (apart : (isIdentifierChar ((c :: w).getLast (List.cons_ne_nil c w)) &&
        isIdentifierChar b) = false) : Fuses (c :: w) ((b :: v) :: us)
  | point {b : Char} {v : List Char} {us : List (List Char)} (digit : b.isDigit = true) :
      Fuses ['.'] ((b :: v) :: us)
  | literal {t v : List Char} {b : Char} {us : List (List Char)} (encodes : t ∈ encodingWords)
      (quote : isQuote b = true) : Fuses t ((b :: v) :: us)
  | arrow {v : List Char} {us : List (List Char)} : Fuses ['-', '>'] (('*' :: v) :: us)
  | comparison {v : List Char} {us : List (List Char)} : Fuses ['<', '='] (('>' :: v) :: us)
  | ellipsis {us : List (List Char)} : Fuses ['.'] (['.', '.', '.'] :: us)
  | points {v : List Char} {us : List (List Char)} : Fuses ['.'] (['.'] :: ('.' :: v) :: us)

theorem not_continuesNumber_of_mem_punctuators2 {a b : Char} (known : [a, b] ∈ punctuators2) :
    continuesNumber a b = false := by
  have each : ∀ p ∈ punctuators2,
      (p.head?.all fun x => p.getLast?.all (! continuesNumber x ·)) = true := by decide
  simpa using each [a, b] known

theorem collide_iff {a b : Char} : collide a b = true ↔
    (isIdentifierChar a = true ∧ isIdentifierChar b = true) ∨ [a, b] ∈ punctuators2 ∨
      a = '/' ∧ (b = '/' ∨ b = '*') := by
  simp [collide, or_assoc]

theorem collide_of_continuesNumber {a b : Char} (next : continuesNumber a b = true) :
    collide a b = true ↔ isIdentifierChar a = true ∧ isIdentifierChar b = true := by
  rw [collide_iff]
  constructor
  · rintro (words | known | ⟨rfl, rfl | rfl⟩)
    · exact words
    · rw [not_continuesNumber_of_mem_punctuators2 known] at next
      cases next
    · exact absurd next (by decide)
    · exact absurd next (by decide)
  · exact .inl

theorem collide_of_isQuote {a b : Char} (quote : isQuote b = true) : ¬ collide a b = true := by
  have each : ∀ p ∈ punctuators2, p.getLast?.all (! isQuote ·) = true := by decide
  rw [collide_iff]
  rintro (⟨_, word⟩ | known | ⟨_, rfl | rfl⟩)
  · rw [isIdentifierChar_of_isQuote quote] at word
    cases word
  · have other : isQuote b = false := by simpa using each [a, b] known
    rw [other] at quote
    cases quote
  · cases quote
  · cases quote

variable {b : Char} {v : List Char} {us : List (List Char)}

theorem behind_cons :
    behind (c :: w) ((b :: v) :: us) =
      (if collide ((c :: w).getLast (List.cons_ne_nil c w)) b then [' '] else []) ++
        (b :: v ++ behind (b :: v) us) := by
  have last : (c :: w).getLast? = some ((c :: w).getLast (List.cons_ne_nil c w)) :=
    List.getLast?_eq_some_getLast _
  rw [← render_cons, behind]
  simp only [needsSpace, last, List.head?_cons]

/-- Where the renderer puts a space nothing fuses. -/
theorem not_fuses_of_collide (space : collide ((c :: w).getLast (List.cons_ne_nil c w)) b = true) :
    ¬ Fuses (c :: w) ((b :: v) :: us) := by
  intro fuses
  cases fuses with
  | number _ next apart =>
    obtain ⟨left, right⟩ := (collide_of_continuesNumber next).mp space
    rw [left, right] at apart
    cases apart
  | point digit =>
    have next : continuesNumber '.' b = true := by
      simp [continuesNumber, isIdentifierChar_of_isDigit digit]
    exact absurd ((collide_of_continuesNumber next).mp space).1 (by decide)
  | literal encodes quote => exact collide_of_isQuote quote space
  | arrow => exact absurd space (by decide)
  | comparison => exact absurd space (by decide)
  | ellipsis => exact absurd space (by decide)
  | points => exact absurd space (by decide)

theorem behind_of_not_collide
    (tight : ¬ collide ((c :: w).getLast (List.cons_ne_nil c w)) b = true) :
    behind (c :: w) ((b :: v) :: us) = b :: (v ++ behind (b :: v) us) := by
  rw [behind_cons, if_neg tight]
  rfl

theorem mem_punctuators3 {p : List Char} (known : p ∈ punctuators3) :
    p = ['<', '<', '='] ∨ p = ['>', '>', '='] ∨ p = ['-', '>', '*'] ∨ p = ['.', '.', '.'] ∨
      p = ['<', '=', '>'] := by
  revert p
  decide

theorem exists_cons_of_scan {r t : List Char} {ts : List (List Char)} (cut : scan r = t :: ts) :
    ∃ c w, t = c :: w := by
  obtain ⟨_, ⟨c, w, head, _⟩, _⟩ := exists_stands cut
  exact ⟨c, w, head⟩

/-- A token that starts with two points is an ellipsis. -/
theorem eq_ellipsis {r : List Char} (token : Stands ('.' :: '.' :: w) r) : w = ['.'] := by
  obtain ⟨_, _, same, _, reach⟩ := token
  cases same
  rw [extent_of_sign (by decide) rfl rfl] at reach
  rcases isPunctuator_of_extent (t := '.' :: '.' :: w) (congrArg (· + 1) reach) with single |
    two | three
  · simp at single
  · have each : ∀ p ∈ punctuators2, ['.', '.'] <+: p → False := by decide
    exact absurd ⟨w, rfl⟩ (each _ two)
  · rcases mem_punctuators3 three with same | same | same | same | same
    all_goals cases same
    rfl

/-- A point fuses with the points that are written behind it. -/
theorem fuses_points {r : List Char} (next : scan r = ('.' :: v) :: us)
    (more : ['.'] <+: v ++ behind ('.' :: v) us) : Fuses ['.'] (('.' :: v) :: us) := by
  obtain ⟨r', stands, rest⟩ := exists_stands next
  cases v with
  | nil =>
    cases us with
    | nil => cases List.prefix_nil.mp more
    | cons u us =>
      obtain ⟨a, w, rfl⟩ := exists_cons_of_scan rest
      rw [List.nil_append, behind_cons] at more
      split at more
      · exact absurd (List.cons_prefix_cons.mp more).1 (by decide)
      · rw [← (List.cons_prefix_cons.mp more).1]
        exact .points
  | cons y v =>
    obtain ⟨rfl, _⟩ := List.cons_prefix_cons.mp more
    rw [eq_ellipsis stands]
    exact .ellipsis

/-- A punctuator that is longer than the token needs a part of the next one. -/
theorem fuses_of_punctuator {p r : List Char} (token : (c :: w).length = 1 ∨ IsPunctuator (c :: w))
    (next : scan r = (b :: v) :: us)
    (tight : ¬ collide ((c :: w).getLast (List.cons_ne_nil c w)) b = true) (known : IsPunctuator p)
    (longer : (c :: w).length < p.length)
    (starts : p <+: c :: w ++ b :: (v ++ behind (b :: v) us)) : Fuses (c :: w) ((b :: v) :: us) := by
  have apart : ∀ a, (c :: w).getLast (List.cons_ne_nil c w) = a → [a, b] ∉ punctuators2 := by
    rintro a rfl known
    exact tight (collide_iff.mpr (.inr (.inl known)))
  rcases known with two | three
  · -- One character and the next make a pair, which is kept apart.
    have pair := length_of_mem_punctuators2 two
    have single : w = [] := List.eq_nil_of_length_eq_zero (by rw [List.length_cons] at longer; omega)
    subst single
    have front : [c, b] <+: c :: [] ++ b :: (v ++ behind (b :: v) us) := ⟨_, rfl⟩
    obtain rfl := (List.prefix_of_prefix_length_le front starts (by rw [pair]; simp)).eq_of_length
      pair.symm
    exact absurd two (apart c rfl)
  · rcases token with single | whole
    · obtain rfl : w = [] := List.eq_nil_of_length_eq_zero (by simpa using single)
      rcases mem_punctuators3 three with rfl | rfl | rfl | rfl | rfl
      all_goals
        simp only [List.cons_append, List.nil_append, List.cons_prefix_cons] at starts
        obtain ⟨rfl, rfl, more⟩ := starts
      · exact absurd (by decide) (apart _ rfl)
      · exact absurd (by decide) (apart _ rfl)
      · exact absurd (by decide) (apart _ rfl)
      · exact fuses_points next (by simpa using more)
      · exact absurd (by decide) (apart _ rfl)
    · have pair : (c :: w).length = 2 := by
        have := length_of_mem_punctuators3 three
        rcases whole with two | three'
        · exact length_of_mem_punctuators2 two
        · rw [length_of_mem_punctuators3 three'] at longer
          omega
      match w, pair with
      | [d], _ =>
        rcases mem_punctuators3 three with rfl | rfl | rfl | rfl | rfl
        all_goals
          simp only [List.cons_append, List.nil_append, List.cons_prefix_cons] at starts
          obtain ⟨rfl, rfl, rfl, _⟩ := starts
        · exact absurd (by decide) (apart _ rfl)
        · exact absurd (by decide) (apart _ rfl)
        · exact .arrow
        · exact absurd whole (by decide)
        · exact .comparison

theorem runsOn_of_fuses (fuses : Fuses (c :: w) ((b :: v) :: us)) :
    RunsOn (c :: w) (b :: (v ++ behind (b :: v) us)) := by
  cases fuses with
  | number number next _ => exact (runsOn_number number).mpr ⟨_, _, rfl, next⟩
  | point digit =>
    exact (runsOn_sign (by decide) rfl rfl).mpr (.inl ⟨rfl, _, _, rfl, digit⟩)
  | literal encodes quote =>
    have each : ∀ t ∈ encodingWords, t.head?.all isIdentifierStart = true := by decide
    have start : isIdentifierStart c = true := each _ encodes
    exact (runsOn_word start).mpr ⟨_, _, rfl, .inr ⟨encodes, quote⟩⟩
  | arrow =>
    exact (runsOn_sign (by decide) rfl rfl).mpr
      (.inr ⟨['-', '>', '*'], by decide, by decide, _, rfl⟩)
  | comparison =>
    exact (runsOn_sign (by decide) rfl rfl).mpr
      (.inr ⟨['<', '=', '>'], by decide, by decide, _, rfl⟩)
  | ellipsis =>
    exact (runsOn_sign (by decide) rfl rfl).mpr
      (.inr ⟨['.', '.', '.'], by decide, by decide, _, rfl⟩)
  | points =>
    rw [List.nil_append, behind_of_not_collide (by decide)]
    exact (runsOn_sign (by decide) rfl rfl).mpr
      (.inr ⟨['.', '.', '.'], by decide, by decide, _, rfl⟩)

theorem fuses_of_runsOn {r₀ r : List Char} (token : Stands (c :: w) r₀)
    (next : scan r = (b :: v) :: us)
    (tight : ¬ collide ((c :: w).getLast (List.cons_ne_nil c w)) b = true)
    (runs : RunsOn (c :: w) (b :: (v ++ behind (b :: v) us))) :
    Fuses (c :: w) ((b :: v) :: us) := by
  cases start : isIdentifierStart c with
  | true =>
    rw [runsOn_word start] at runs
    obtain ⟨_, _, same, ⟨whole, word⟩ | ⟨encodes, quote⟩⟩ := runs
    · cases same
      have letters : ∀ a ∈ c :: w, isIdentifierChar a = true := by
        intro a member
        rcases List.mem_cons.mp member with rfl | member
        · exact isIdentifierChar_of_isIdentifierStart start
        · exact List.all_eq_true.mp whole a member
      exact absurd (collide_iff.mpr (.inl ⟨letters _ (List.getLast_mem _), word⟩)) tight
    · cases same
      exact .literal encodes quote
  | false =>
    cases number : startsNumber c w with
    | true =>
      rw [runsOn_number number] at runs
      obtain ⟨_, _, same, next⟩ := runs
      cases same
      refine .number number next ?_
      rwa [← Bool.not_eq_true, Bool.and_eq_true, ← collide_of_continuesNumber next]
    | false =>
      cases quote : isQuote c with
      | true => exact absurd runs (runsOn_quote quote)
      | false =>
        rw [runsOn_sign start number quote] at runs
        rcases runs with ⟨same, _, _, same', digit⟩ | ⟨p, known, longer, starts⟩
        · cases same
          cases same'
          exact .point digit
        · obtain ⟨_, _, same, _, reach⟩ := token
          cases same
          have whole := isPunctuator_of_extent (signExtent start number quote reach)
          exact fuses_of_punctuator whole next tight known longer starts

theorem runsOn_behind_iff {r₀ r : List Char} (token : Stands (c :: w) r₀)
    (next : scan r = (b :: v) :: us) :
    RunsOn (c :: w) (behind (c :: w) ((b :: v) :: us)) ↔ Fuses (c :: w) ((b :: v) :: us) := by
  by_cases space : collide ((c :: w).getLast (List.cons_ne_nil c w)) b = true
  · rw [behind_cons, if_pos space]
    exact iff_of_false (not_runsOn_blank rfl) (not_fuses_of_collide space)
  · rw [behind_of_not_collide space]
    exact ⟨fuses_of_runsOn token next space, runsOn_of_fuses⟩


theorem stands_of_suffix {s t : List Char} {ts us : List (List Char)} (tokens : scan s = ts)
    (suffix : t :: us <:+ ts) : ∃ r, Stands t r ∧ scan r = us := by
  induction ts generalizing s with
  | nil => cases List.suffix_nil.mp suffix
  | cons u ts ih =>
    obtain ⟨r, stands, rest⟩ := exists_stands tokens
    rcases List.suffix_cons_iff.mp suffix with same | later
    · cases same
      exact ⟨r, stands, rest⟩
    · exact ih rest later

/-- Tokens are read again as they were written exactly where no neighbours fuse. -/
theorem scan_render_iff {s : List Char} {ts : List (List Char)} (tokens : scan s = ts) :
    scan (render ts) = ts ↔ ∀ t us, t :: us <:+ ts → ¬ Fuses t us := by
  rw [scan_render_iff_runsOn tokens]
  refine forall_congr' fun t => forall_congr' fun us => forall_congr' fun suffix => not_congr ?_
  obtain ⟨r, stands, rest⟩ := stands_of_suffix tokens suffix
  obtain ⟨c, w, rfl, _⟩ := id stands
  cases us with
  | nil => exact iff_of_false not_runsOn_nil nofun
  | cons u us =>
    obtain ⟨b, v, rfl⟩ := exists_cons_of_scan rest
    exact runsOn_behind_iff stands rest

/-- Cutting a text into tokens, writing them and cutting again gives the same tokens exactly
where no neighbours fuse. -/
theorem ofText_toText_iff (s : List Char) :
    ofText (toText (ofText s)).toList = ofText s ↔ ∀ t us, t :: us <:+ scan s → ¬ Fuses t us := by
  have inverse : (scan s).map (String.toList ∘ String.ofList) = scan s := by
    simp [Function.comp_def]
  rw [← scan_render_iff rfl, ofText, ofText, toText, String.toList_ofList, List.map_map, inverse]
  exact List.map_inj_right fun _ _ => String.ofList_injective

theorem not_ofText_toText : ¬ ∀ s, ofText (toText (ofText s)).toList = ofText s := by
  intro always
  exact absurd (always ['.', ' ', '5']) (by decide)

end CxxTrees.Token
