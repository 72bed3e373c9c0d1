import Mathlib.Data.List.Basic
import Mathlib.Data.List.Infix
import CxxTrees.Proofs.Spelling.Depth
import CxxTrees.Proofs.Spelling.Separators

/-!
# Joined arguments

Cutting an argument list and joining the arguments with commas undo each other. A list that
is cut and joined again has its text back up to blanks, well-formed or not, and perhaps
without a last comma (`withoutBlanks_arguments`). Arguments that are joined and cut again
come back if their brackets are closed (`arguments_iff_of_lists`).
-/

namespace CxxTrees.Spelling
open Text
variable {d : Nesting} {s t : List Char}

/-! ### Pieces -/

theorem intercalate_pieces (d : Nesting) (s : List Char) : [','].intercalate (pieces d s) = s := by
  induction s generalizing d with
  | nil => rfl
  | cons c s ih =>
    unfold pieces
    split
    · rename_i cuts
      obtain ⟨piece, later, parts⟩ := List.exists_cons_of_ne_nil (pieces_ne_nil d s)
      rw [parts, List.intercalate_cons_cons, ← parts, ih d, cuts.1]
      rfl
    · obtain ⟨piece, later, parts⟩ := List.exists_cons_of_ne_nil (pieces_ne_nil (d.step c) s)
      have rest := ih (d.step c)
      rw [parts] at rest ⊢
      rw [List.modifyHead_cons]
      cases later with
      | nil => simpa using rest
      | cons next later =>
        rw [List.intercalate_cons_cons] at rest ⊢
        simpa using rest

/-- The last piece of a text goes on with the first of what stands behind it. -/
theorem exists_pieces_append (d : Nesting) (s : List Char) :
    ∃ front last, pieces d s = front ++ [last] ∧
      ∀ t, pieces d (s ++ t) =
        front ++ (pieces (s.foldl Nesting.step d) t).modifyHead (last ++ ·) := by
  induction s generalizing d with
  | nil => exact ⟨[], [], rfl, fun t => (modifyHead_nothing (pieces d t)).symm⟩
  | cons c s ih =>
    by_cases cuts : c = ',' ∧ d = Nesting.top
    · obtain ⟨rfl, rfl⟩ := cuts
      obtain ⟨front, last, parts, more⟩ := ih Nesting.top
      refine ⟨[] :: front, last, ?_, fun t => ?_⟩
      · rw [pieces, if_pos ⟨rfl, rfl⟩, parts, List.cons_append]
      · rw [List.cons_append, pieces, if_pos ⟨rfl, rfl⟩, more t]
        rfl
    · obtain ⟨front, last, parts, more⟩ := ih (d.step c)
      cases front with
      | nil =>
        refine ⟨[], c :: last, ?_, fun t => ?_⟩
        · rw [pieces, if_neg cuts, parts]
          rfl
        · rw [List.cons_append, pieces, if_neg cuts, more t]
          simp [List.modifyHead_modifyHead, Function.comp_def]
      | cons first front =>
        refine ⟨(c :: first) :: front, last, ?_, fun t => ?_⟩
        · rw [pieces, if_neg cuts, parts]
          rfl
        · rw [List.cons_append, pieces, if_neg cuts, more t]
          rfl

/-! ### Joining what was cut -/

/-- The last character of a text is a comma at its top level, which an argument list is cut at. -/
def EndsInSeparator (body : List Char) : Prop :=
  body.getLast? = some ',' ∧ body.dropLast.foldl Nesting.step Nesting.top = Nesting.top

instance (body : List Char) : Decidable (EndsInSeparator body) :=
  inferInstanceAs (Decidable (_ ∧ _))

theorem endsInSeparator_concat {c : Char} : EndsInSeparator (s ++ [c]) ↔
    c = ',' ∧ s.foldl Nesting.step Nesting.top = Nesting.top := by
  simp [EndsInSeparator]

theorem arguments_of_separator (top : s.foldl Nesting.step Nesting.top = Nesting.top) :
    arguments (s ++ [',']) = (pieces Nesting.top s).map trim := by
  obtain ⟨front, last, parts, more⟩ := exists_pieces_append Nesting.top s
  have cut : pieces Nesting.top (s ++ [',']) = pieces Nesting.top s ++ [[]] := by
    rw [more, top, parts]
    simp [pieces]
  simp [arguments, cut]

theorem arguments_of_other {c : Char}
    (other : ¬ (c = ',' ∧ s.foldl Nesting.step Nesting.top = Nesting.top)) :
    arguments (s ++ [c]) = (pieces Nesting.top (s ++ [c])).map trim := by
  obtain ⟨front, last, _, more⟩ := exists_pieces_append Nesting.top s
  have visible : (pieces Nesting.top (s ++ [c])).getLast? ≠ some [] := by
    rw [more, pieces, if_neg other]
    simp [pieces]
  exact congrArg (List.map trim) (if_neg visible)

/-- A text without its blanks. -/
def withoutBlanks (s : List Char) : List Char := s.filter (! isBlank ·)

theorem withoutBlanks_append (s t : List Char) :
    withoutBlanks (s ++ t) = withoutBlanks s ++ withoutBlanks t := List.filter_append s t

theorem withoutBlanks_trim (s : List Char) : withoutBlanks (trim s) = withoutBlanks s := by
  have none {gap : List Char} (blank : gap.all isBlank = true) : withoutBlanks gap = [] := by
    simpa [withoutBlanks] using blank
  obtain ⟨front, back, parts, blankFront, blankBack⟩ := exists_trim s
  have whole := congrArg withoutBlanks parts
  rw [withoutBlanks_append, withoutBlanks_append, none blankFront, none blankBack, List.nil_append,
    List.append_nil] at whole
  exact whole.symm

theorem withoutBlanks_intercalate (parts : List (List Char)) :
    withoutBlanks ([','].intercalate (parts.map trim)) = withoutBlanks ([','].intercalate parts) := by
  induction parts with
  | nil => rfl
  | cons part parts ih =>
    cases parts with
    | nil => simpa using withoutBlanks_trim part
    | cons next parts =>
      rw [List.map_cons, List.map_cons, List.intercalate_cons_cons, List.intercalate_cons_cons,
        withoutBlanks_append, withoutBlanks_append, ← List.map_cons, ih, withoutBlanks_append,
        withoutBlanks_append, withoutBlanks_trim]

/-- The arguments of any text, joined with commas, have its characters in their order, except for
blanks and a last comma that the text was cut at. -/
theorem withoutBlanks_arguments (body : List Char) :
    withoutBlanks ([','].intercalate (arguments body)) ++
      (if EndsInSeparator body then [','] else []) = withoutBlanks body := by
  rcases List.eq_nil_or_concat' body with rfl | ⟨s, c, rfl⟩
  · rfl
  · by_cases ends : EndsInSeparator (s ++ [c])
    · rw [if_pos ends]
      obtain ⟨rfl, top⟩ := endsInSeparator_concat.mp ends
      rw [arguments_of_separator top, withoutBlanks_intercalate, intercalate_pieces,
        withoutBlanks_append]
      rfl
    · rw [if_neg ends, arguments_of_other (mt endsInSeparator_concat.mpr ends),
        withoutBlanks_intercalate, intercalate_pieces, List.append_nil]

/-! ### Cutting what was joined -/

/-- No comma of `s` is a separator, if `s` is read from `d` on. -/
def IsOnePiece (d : Nesting) (s : List Char) : Prop :=
  ∀ front back, s = front ++ ',' :: back → front.foldl Nesting.step d ≠ Nesting.top

theorem pieces_of_isOnePiece (one : IsOnePiece d s) : pieces d s = [s] := by
  rcases pieces_cases d s with ⟨whole, _⟩ | ⟨front, rest, same, top, _⟩
  · exact whole
  · exact absurd top (one front rest same)

theorem IsOnePiece.append (first : IsOnePiece d s)
    (second : IsOnePiece (s.foldl Nesting.step d) t) : IsOnePiece d (s ++ t) := by
  intro front back same
  rcases List.append_eq_append_iff.mp same with ⟨x, rfl, rest⟩ | ⟨x, rfl, rest⟩
  · rw [List.foldl_append]
    exact second x back rest
  · cases x with
    | nil =>
      rw [List.append_nil] at second
      exact second [] back rest.symm
    | cons _ x =>
      obtain ⟨rfl, _⟩ := List.cons.inj rest
      exact first front x rfl

theorem IsOnePiece.cons {c : Char} (apart : c = ',' → d ≠ Nesting.top)
    (rest : IsOnePiece (d.step c) s) : IsOnePiece d (c :: s) := by
  intro front back same
  cases front with
  | nil => exact apart (List.cons.inj same).1
  | cons _ front =>
    obtain ⟨rfl, same'⟩ := List.cons.inj same
    exact rest front back same'

theorem isOnePiece_of_notMem (absent : ',' ∉ s) : IsOnePiece d s := by
  rintro front back rfl
  exact absurd (by simp) absent

theorem isOnePiece_of_blanks (blank : s.all isBlank = true) : IsOnePiece d s :=
  isOnePiece_of_notMem fun member =>
    absurd (List.all_eq_true.mp blank ',' member) (by decide)

theorem arguments_of_isOnePiece (one : IsOnePiece Nesting.top s) (more : s ≠ []) :
    arguments s = [trim s] := by
  have last : [s].getLast? ≠ some [] := by simpa using more
  show kept (pieces Nesting.top s) = _
  rw [pieces_of_isOnePiece one, kept, if_neg last, List.map_singleton]

/-- A piece ends at a comma that stands at the top level. -/
theorem pieces_comma (one : IsOnePiece d s) (top : s.foldl Nesting.step d = Nesting.top)
    (rest : List Char) : pieces d (s ++ ',' :: rest) = s :: pieces Nesting.top rest := by
  obtain ⟨front, last, parts, more⟩ := exists_pieces_append d s
  have single : [] ++ [s] = front ++ [last] := (pieces_of_isOnePiece one).symm.trans parts
  obtain ⟨rfl, same⟩ := List.append_inj' single rfl
  cases same
  rw [more, top]
  simp [pieces]

/-! ### Lists of arguments -/

/-- The text of an argument: no bracket in it is closed before it is opened, nor left open, and
every comma is inside of brackets. -/
structure ArgumentText where
  text : List Char
  nonempty : text ≠ []
  trimmed : trim text = text
  nested : ∀ front ∈ text.inits, 0 ≤ bracketDepth front ∧ 0 ≤ angleDepth 0 front
  closed : bracketDepth text = 0 ∧ angleDepth 0 text = 0
  covered : ∀ front ∈ text.inits, front ++ [','] <+: text →
    0 < bracketDepth front ∨ 0 < angleDepth 0 front

/-- Arguments with commas between them, and blanks around the commas and at both ends. -/
inductive Lists : List ArgumentText → List Char → Prop where
  | none (gap : Blanks) : Lists [] gap.text
  | last (before : Blanks) (a : ArgumentText) (after : Blanks) :
    Lists [a] (before.text ++ (a.text ++ after.text))
  | comma (before : Blanks) (a : ArgumentText) (after : Blanks) {args : List ArgumentText}
    {s : List Char} (more : args ≠ []) (rest : Lists args s) :
    Lists (a :: args) (before.text ++ (a.text ++ after.text) ++ ',' :: s)

namespace ArgumentText
variable (a : ArgumentText) (before after : Blanks) (angles : Nat)

theorem foldl_step : a.text.foldl Nesting.step ⟨0, angles⟩ = ⟨0, angles⟩ := by
  have nested := fun front part => a.nested front ((List.mem_inits front a.text).mpr part)
  rw [Spelling.foldl_step angles nested, a.closed.1, a.closed.2, Int.add_zero]
  rfl

theorem isOnePiece : IsOnePiece ⟨0, angles⟩ a.text := by
  intro front back same top
  have upToComma : front ++ [','] <+: a.text := ⟨back, by simp [same]⟩
  have upTo : front <+: a.text := (List.prefix_append front [',']).trans upToComma
  have nested := fun part inside =>
    a.nested part ((List.mem_inits part a.text).mpr (List.IsPrefix.trans inside upTo))
  rw [Spelling.foldl_step angles nested, Nesting.top, Nesting.mk.injEq] at top
  rcases a.covered front ((List.mem_inits front a.text).mpr upTo) upToComma with brackets | angles <;>
    omega

theorem foldl_step_padded :
    (before.text ++ (a.text ++ after.text)).foldl Nesting.step ⟨0, angles⟩ = ⟨0, angles⟩ := by
  rw [List.foldl_append, foldl_step_blanks before.blank, List.foldl_append, a.foldl_step,
    foldl_step_blanks after.blank]

theorem isOnePiece_padded :
    IsOnePiece ⟨0, angles⟩ (before.text ++ (a.text ++ after.text)) := by
  apply (isOnePiece_of_blanks before.blank).append
  rw [foldl_step_blanks before.blank]
  exact (a.isOnePiece angles).append (isOnePiece_of_blanks after.blank)

theorem trim_padded : trim (before.text ++ (a.text ++ after.text)) = a.text :=
  trim_around before.blank after.blank a.nonempty a.trimmed

end ArgumentText

theorem arguments_of_lists {args : List ArgumentText} (lists : Lists args s) (some_ : args ≠ []) :
    arguments s = args.map (·.text) := by
  induction lists with
  | none => exact absurd rfl some_
  | last before a after =>
    have visible : before.text ++ (a.text ++ after.text) ≠ [] := by simp [a.nonempty]
    rw [arguments_of_isOnePiece (a.isOnePiece_padded before after 0) visible, a.trim_padded,
      List.map_singleton]
  | comma before a after more rest ih =>
    show kept (pieces ⟨0, 0⟩ _) = _
    rw [pieces_comma (a.isOnePiece_padded before after 0) (a.foldl_step_padded before after 0),
      kept_cons _ (pieces_ne_nil _ _), a.trim_padded, List.map_cons]
    exact congrArg (a.text :: ·) (ih more)

/-- Blanks alone are an argument, an empty one. -/
theorem arguments_of_blanks {gap : List Char} (blank : gap.all isBlank = true) (more : gap ≠ []) :
    arguments gap = [[]] := by
  have nothing : trim gap = [] := by
    have start := trimStart_append blank []
    rw [List.append_nil] at start
    rw [trim, start]
    rfl
  rw [arguments_of_isOnePiece (isOnePiece_of_blanks blank) more, nothing]

theorem argumentsBehind_append (name s : List Char) :
    argumentsBehind name (name ++ '<' :: s) = arguments s := by
  have whole : name ++ '<' :: s = (name ++ ['<']) ++ s := by simp
  have width : byteLength name + 1 = byteLength (name ++ ['<']) := by
    rw [byteLength_append]
    rfl
  rw [argumentsBehind, whole, width, dropBytes?_front]
  rfl

/-- Arguments that are listed come back, except that blanks alone are one argument, which is
empty. Behind the name of a template they are found in the same way. -/
theorem arguments_iff_of_lists {args : List ArgumentText} (lists : Lists args s) :
    (arguments s = args.map (·.text) ↔ args ≠ [] ∨ s = []) ∧
      (args = [] → s ≠ [] → arguments s = [[]]) ∧
      ∀ name, argumentsBehind name (name ++ '<' :: s) = arguments s := by
  have blanks : args = [] → s ≠ [] → arguments s = [[]] := by
    rintro rfl more
    cases lists with
    | none gap => exact arguments_of_blanks gap.blank more
  refine ⟨?_, blanks, fun name => argumentsBehind_append name s⟩
  by_cases some_ : args = []
  · by_cases nothing : s = []
    · rw [some_, nothing]
      exact iff_of_true rfl (.inr rfl)
    · rw [blanks some_ nothing, some_]
      simp [nothing]
  · exact iff_of_true (arguments_of_lists lists some_) (.inl some_)

/-- Brackets of each shape, around commas. -/
def nestedArgument : ArgumentText where
  text := "Pair<A, {x[0], y}>".toList
  nonempty := by decide
  trimmed := by decide
  nested := by decide
  closed := by decide
  covered := by decide

/-- An angle bracket that is not counted, as it is inside of others. -/
def comparedArgument : ArgumentText where
  text := "less(a > b, c)".toList
  nonempty := by decide
  trimmed := by decide
  nested := by decide
  closed := by decide
  covered := by decide

def spacedArguments : List Char := " Pair<A, {x[0], y}>\t,  less(a > b, c) ".toList

theorem lists_spacedArguments : Lists [nestedArgument, comparedArgument] spacedArguments :=
  .comma ⟨" ".toList, by decide⟩ nestedArgument ⟨"\t".toList, by decide⟩
    (List.cons_ne_nil comparedArgument [])
    (.last ⟨"  ".toList, by decide⟩ comparedArgument ⟨" ".toList, by decide⟩)

theorem arguments_spacedArguments : Lists [nestedArgument, comparedArgument] spacedArguments ∧
    arguments spacedArguments = ["Pair<A, {x[0], y}>".toList, "less(a > b, c)".toList] ∧
    argumentsBehind "T".toList ("T<".toList ++ spacedArguments) = arguments spacedArguments :=
  have ⟨cut, _, behind⟩ := arguments_iff_of_lists lists_spacedArguments
  ⟨lists_spacedArguments, cut.mpr (.inl (List.cons_ne_nil _ _)), behind "T".toList⟩

/-- Blanks are a list of no arguments, but one is read from them. -/
theorem not_arguments_of_lists :
    ¬ ∀ (args : List ArgumentText) (s : List Char), Lists args s →
      arguments s = args.map (·.text) := by
  intro agree
  exact absurd (agree [] [' '] (.none ⟨[' '], by decide⟩)) (by decide)

end CxxTrees.Spelling
