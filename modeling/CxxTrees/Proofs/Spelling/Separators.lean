import CxxTrees.Proofs.Spelling.Offsets
import CxxTrees.Proofs.Token.SideBySide

/-!
# Separators and tokens

The commas that an argument list is cut at are tokens of it, and the tokens between
them are those of the arguments, as long as no literal is open in front of one. The
cut does not look for quotes: `scan_arguments_iff` says for which lists it agrees with
the tokens.
-/

namespace CxxTrees.Spelling
open Text Token

/-- The pieces of a text go up to its first top-level comma, and on from there. -/
theorem pieces_cases (d : Nesting) (s : List Char) :
    (pieces d s = [s] ∧
      ∀ front back, s = front ++ ',' :: back → front.foldl Nesting.step d ≠ Nesting.top) ∨
    ∃ front rest, s = front ++ ',' :: rest ∧ front.foldl Nesting.step d = Nesting.top ∧
      pieces d s = front :: pieces Nesting.top rest ∧
      ∀ inner back, front = inner ++ ',' :: back → inner.foldl Nesting.step d ≠ Nesting.top := by
  induction s generalizing d with
  | nil => exact .inl ⟨rfl, by simp⟩
  | cons c s ih =>
    by_cases cuts : c = ',' ∧ d = Nesting.top
    · obtain ⟨rfl, rfl⟩ := cuts
      exact .inr ⟨[], s, rfl, rfl, by simp [pieces], by simp⟩
    · rw [pieces, if_neg cuts]
      -- What is no separator behind `c` is none in the whole text, where `c` cuts nothing either.
      have shift : ∀ w : List Char,
          (∀ inner back, w = inner ++ ',' :: back →
            inner.foldl Nesting.step (d.step c) ≠ Nesting.top) →
          ∀ inner back, c :: w = inner ++ ',' :: back →
            inner.foldl Nesting.step d ≠ Nesting.top := by
        intro w none inner back same
        cases inner with
        | nil =>
          obtain ⟨rfl, rfl⟩ := List.cons.inj same
          exact fun top => cuts ⟨rfl, top⟩
        | cons _ inner =>
          obtain ⟨rfl, rest⟩ := List.cons.inj same
          exact none inner back rest
      rcases ih (d.step c) with ⟨one, none⟩ | ⟨front, rest, same, top, more, none⟩
      · exact .inl ⟨by rw [one]; rfl, shift s none⟩
      · exact .inr ⟨c :: front, rest, by rw [same]; rfl, top, by rw [more]; rfl, shift front none⟩

/-- Pieces come off the front of a text up to its last one. -/
theorem pieces_induction {motive : List Char → Prop}
    (one : ∀ s, pieces Nesting.top s = [s] →
      (∀ front back, s = front ++ ',' :: back →
        front.foldl Nesting.step Nesting.top ≠ Nesting.top) → motive s)
    (cut : ∀ front rest, front.foldl Nesting.step Nesting.top = Nesting.top →
      pieces Nesting.top (front ++ ',' :: rest) = front :: pieces Nesting.top rest →
      (∀ inner back, front = inner ++ ',' :: back →
        inner.foldl Nesting.step Nesting.top ≠ Nesting.top) →
      motive rest → motive (front ++ ',' :: rest)) (s : List Char) : motive s := by
  rcases pieces_cases Nesting.top s with ⟨whole, none⟩ | ⟨front, rest, same, top, more, first⟩
  · exact one s whole none
  · rw [same] at more ⊢
    exact cut front rest top more first (pieces_induction one cut rest)
termination_by s.length
decreasing_by
  rw [same, List.length_append, List.length_cons]
  omega

/-- A last piece is empty only where a text is, or where it ends in a comma. -/
theorem getLast?_pieces {d : Nesting} {s : List Char} (last : (pieces d s).getLast? = some [])
    (more : s ≠ []) : s.getLast? = some ',' := by
  induction s generalizing d with
  | nil => exact absurd rfl more
  | cons c s ih =>
    unfold pieces at last
    split at last
    · rename_i cuts
      rw [List.getLast?_cons_of_ne_nil (pieces_ne_nil d s)] at last
      cases s with
      | nil => rw [cuts.1]; rfl
      | cons a s => exact ih last (List.cons_ne_nil a s)
    · obtain ⟨piece, later, parts⟩ := List.exists_cons_of_ne_nil (pieces_ne_nil (d.step c) s)
      rw [parts, List.modifyHead_cons] at last
      cases later with
      | nil => simp at last
      | cons next later =>
        cases s with
        | nil => simp [pieces] at parts
        | cons a s =>
          rw [List.getLast?_cons_cons, ← List.getLast?_cons_cons (a := piece), ← parts] at last
          exact ih last (List.cons_ne_nil a s)

theorem arguments_eq {body : List Char} (more : body ≠ []) (ends : body.getLast? ≠ some ',') :
    arguments body = (pieces Nesting.top body).map trim := by
  have last : (pieces Nesting.top body).getLast? ≠ some [] := fun last =>
    ends (getLast?_pieces last more)
  exact congrArg (List.map trim) (if_neg last)

/-! ### Tokens around a comma -/

theorem stands_comma (r : List Char) : Stands [','] r := by
  have alone : Stands [','] [' '] := ⟨',', [], rfl, by decide, by decide⟩
  rw [stands_iff (by simp) alone, runsOn_sign (by decide) (by decide) (by decide)]
  rintro (⟨same, _⟩ | ⟨p, known, longer, starts⟩)
  · cases same
  · have member : ',' ∈ p :=
      (List.prefix_of_prefix_length_le (List.prefix_append [','] r) starts
        (Nat.le_of_lt longer)).subset List.mem_cons_self
    exact isSeparator_comma.plain p (List.mem_append.mpr known) member

theorem scan_comma {front : List Char} (closed : ¬ LeavesOpen front) (rest : List Char) :
    scan (front ++ ',' :: rest) = scan front ++ [','] :: scan rest := by
  rw [scan_append_separator isSeparator_comma closed]
  exact congrArg _ (scan_of_stands (stands_comma rest))

theorem not_isOpenLiteral_comma : ¬ IsOpenLiteral [','] := by
  intro unclosed
  exact not_stands_of_open unclosed (stands_comma [' '])

theorem leavesOpen_comma {front : List Char} (closed : ¬ LeavesOpen front) (rest : List Char) :
    LeavesOpen (front ++ ',' :: rest) ↔ LeavesOpen rest := by
  unfold LeavesOpen at *
  rw [scan_comma closed]
  simp only [List.mem_append, List.mem_cons]
  constructor
  · rintro ⟨t, member | rfl | member, unclosed⟩
    · exact absurd ⟨t, member, unclosed⟩ closed
    · exact absurd unclosed not_isOpenLiteral_comma
    · exact ⟨t, member, unclosed⟩
  · rintro ⟨t, member, unclosed⟩
    exact ⟨t, .inr (.inr member), unclosed⟩

/-! ### Pieces and tokens -/

/-- No top-level comma of a text is inside of a literal. -/
def CutsBetweenTokens (s : List Char) : Prop :=
  ∀ front back, s = front ++ ',' :: back → front.foldl Nesting.step Nesting.top = Nesting.top →
    ¬ LeavesOpen front

theorem cutsBetweenTokens_comma {front rest : List Char}
    (top : front.foldl Nesting.step Nesting.top = Nesting.top) (closed : ¬ LeavesOpen front)
    (first : ∀ inner back, front = inner ++ ',' :: back →
      inner.foldl Nesting.step Nesting.top ≠ Nesting.top) :
    CutsBetweenTokens (front ++ ',' :: rest) ↔ CutsBetweenTokens rest := by
  have behind : ∀ inner : List Char, (front ++ ',' :: inner).foldl Nesting.step Nesting.top =
      inner.foldl Nesting.step Nesting.top := by
    intro inner
    rw [List.foldl_append, top, List.foldl_cons]
    rfl
  constructor
  · rintro cuts inner back rfl here unclosed
    exact cuts (front ++ ',' :: inner) back (by simp) ((behind inner).trans here)
      ((leavesOpen_comma closed inner).mpr unclosed)
  · intro cuts inner back same here
    rcases List.append_eq_append_iff.mp same with ⟨x, rfl, rest'⟩ | ⟨x, front', rest'⟩
    · cases x with
      | nil => simpa using closed
      | cons _ x =>
        obtain ⟨rfl, rfl⟩ := List.cons.inj rest'
        rw [leavesOpen_comma closed]
        exact cuts x back rfl ((behind x).symm.trans here)
    · cases x with
      | nil =>
        rw [List.append_nil] at front'
        exact front' ▸ closed
      | cons _ x =>
        obtain ⟨rfl, _⟩ := List.cons.inj rest'
        exact absurd here (first inner x front')

/-- A text has the tokens of its pieces, trimmed, with a comma between any two of them. -/
theorem scan_pieces_iff (s : List Char) :
    scan s = [[',']].intercalate ((pieces Nesting.top s).map (scan ∘ trim)) ↔
      CutsBetweenTokens s ∧ ¬ (LeavesOpen s ∧ s.getLast?.any isBlank = true) := by
  induction s using pieces_induction with
  | one s one none =>
    rw [one, List.map_singleton, List.intercalate_singleton, eq_comm, Function.comp, scan_trim_iff]
    exact (and_iff_right fun front back same top => absurd top (none front back same)).symm
  | cut front rest top more first ih =>
    obtain ⟨piece, later, parts⟩ := List.exists_cons_of_ne_nil (pieces_ne_nil Nesting.top rest)
    rw [more, parts, List.map_cons, List.map_cons, List.intercalate_cons_cons, ← List.map_cons,
      ← parts, Function.comp, List.append_assoc, List.singleton_append]
    by_cases unclosed : LeavesOpen front
    · refine iff_of_false (fun same => ?_) fun kept => kept.1 front rest rfl top unclosed
      -- The literal would go on behind the comma, but what is left of it here ends before that.
      obtain ⟨t, member, unclosed⟩ := (leavesOpen_trim front).mpr unclosed
      obtain ⟨a, b, cut⟩ := List.append_of_mem member
      rw [cut, List.append_assoc, List.cons_append] at same
      exact List.append_ne_nil_of_right_ne_nil b (List.cons_ne_nil _ _)
        (endsIn_of_open same unclosed).2
    · rw [scan_comma unclosed, (scan_trim_iff front).mpr fun kept => unclosed kept.1,
        List.append_cancel_left_eq, List.cons.injEq, eq_self, true_and, ih,
        cutsBetweenTokens_comma top unclosed first, leavesOpen_comma unclosed rest]
      refine and_congr_right fun _ => not_congr (and_congr_right fun unclosed => ?_)
      have some_ := ne_nil_of_leavesOpen unclosed
      rw [List.getLast?_append, List.getLast?_cons_of_ne_nil some_,
        List.getLast?_eq_some_getLast some_, Option.some_or]

/-- An argument list has the tokens of its arguments, with a comma between any two of them,
exactly where no literal is open in front of a separator, nor around blanks at the end. -/
theorem scan_arguments_iff {body : List Char} (ends : body.getLast? ≠ some ',') :
    scan body = [[',']].intercalate ((arguments body).map scan) ↔
      CutsBetweenTokens body ∧ ¬ (LeavesOpen body ∧ body.getLast?.any isBlank = true) := by
  by_cases more : body = []
  · subst more
    exact scan_pieces_iff []
  · rw [arguments_eq more ends, List.map_map]
    exact scan_pieces_iff body

def nestedBody : List Char := "Pair<A, B>, f(',', \"a, b\"), L'x'".toList

theorem cutsBetweenTokens_nested : nestedBody.getLast? ≠ some ',' ∧ CutsBetweenTokens nestedBody :=
  ⟨by decide, ((scan_arguments_iff (by decide)).mp (by decide)).1⟩

/-- A comma in a character literal is taken for a separator. -/
theorem not_scan_arguments :
    ¬ ∀ body : List Char, body.getLast? ≠ some ',' →
      scan body = [[',']].intercalate ((arguments body).map scan) := by
  intro agree
  exact absurd (agree "','".toList (by decide)) (by decide)

end CxxTrees.Spelling
