import CxxTrees.Proofs.Spelling.Joined
import CxxTrees.Proofs.Spelling.Offsets

/-!
# Arguments of a member

The name of a member template may stand behind the arguments of the template that it is a
member of. What is between the first opening bracket of such a spelling and its last
closing one is then cut at commas like a list of arguments, though it closes a bracket
that it does not open: all that stands behind this bracket goes to one argument
(`arguments_of_member`).
-/

namespace CxxTrees.Spelling
open Text
variable {d : Nesting} {args : List ArgumentText} {name s rest : List Char}

/-- A character that neither opens nor closes anything, and is no comma. -/
def isPlain (c : Char) : Bool :=
  !(isOpening c || isClosing c || c == '<' || c == '>' || c == ',')

/-- What stands behind the first list of arguments: the scope that was closed, and in it a name
with arguments again, until those in the end, which are closed elsewhere. -/
inductive MemberText (args : List ArgumentText) : List Char → Prop where
  | member (name : List Char) {s : List Char} (plain : name.all isPlain = true)
    (lists : Lists args s) : MemberText args ('>' :: (name ++ '<' :: s))
  | scope (name : List Char) {s rest : List Char} {others : List ArgumentText}
    (plain : name.all isPlain = true) (lists : Lists others s) (inner : MemberText args rest) :
    MemberText args ('>' :: (name ++ '<' :: (s ++ rest)))

/-! ### No comma at the top -/

theorem foldl_step_plain (plain : name.all isPlain = true) : name.foldl Nesting.step d = d := by
  induction name with
  | nil => rfl
  | cons c name ih =>
    rw [List.all_cons, Bool.and_eq_true] at plain
    have first : d.step c = d := by
      have other := plain.1
      simp only [isPlain, Bool.not_eq_true', Bool.or_eq_false_iff, beq_eq_false_iff_ne] at other
      obtain ⟨⟨⟨⟨opening, closing⟩, up⟩, down⟩, _⟩ := other
      rw [step_other opening closing, if_neg up, if_neg down, ite_self]
    rw [List.foldl_cons, first, ih plain.2]

theorem isOnePiece_of_plain (plain : name.all isPlain = true) : IsOnePiece d name :=
  isOnePiece_of_notMem fun member =>
    absurd (List.all_eq_true.mp plain ',' member) (by decide)

theorem Lists.foldl_step (lists : Lists args s) (angles : Nat) :
    s.foldl Nesting.step ⟨0, angles⟩ = ⟨0, angles⟩ := by
  induction lists with
  | none gap => exact foldl_step_blanks gap.blank
  | last before a after => exact a.foldl_step_padded before after angles
  | comma before a after _ _ ih =>
    rw [List.foldl_append, a.foldl_step_padded, List.foldl_cons]
    exact ih

/-- Inside of an angle bracket that stays open, the commas of a list separate nothing. -/
theorem Lists.isOnePiece (lists : Lists args s) (angles : Nat) : IsOnePiece ⟨0, angles + 1⟩ s := by
  induction lists with
  | none gap => exact isOnePiece_of_blanks gap.blank
  | last before a after => exact a.isOnePiece_padded before after (angles + 1)
  | comma before a after _ _ ih =>
    apply (a.isOnePiece_padded before after (angles + 1)).append
    rw [a.foldl_step_padded]
    exact .cons (fun _ => by simp [Nesting.top]) ih

theorem isOnePiece_scope (closed : d.step '>' = Nesting.top) (plain : name.all isPlain = true)
    (lists : Lists args s) (inner : IsOnePiece ⟨0, 1⟩ rest) :
    IsOnePiece d ('>' :: (name ++ '<' :: (s ++ rest))) := by
  refine .cons nofun ?_
  rw [closed]
  apply (isOnePiece_of_plain plain).append
  rw [foldl_step_plain plain]
  refine .cons nofun ((lists.isOnePiece 0).append ?_)
  exact (lists.foldl_step 1).symm ▸ inner

theorem MemberText.isOnePiece (written : MemberText args s) (closed : d.step '>' = Nesting.top) :
    IsOnePiece d s := by
  induction written generalizing d with
  | member name plain lists =>
    have nothing : IsOnePiece ⟨0, 1⟩ [] := isOnePiece_of_notMem nofun
    have alone := isOnePiece_scope closed plain lists nothing
    rwa [List.append_nil] at alone
  | scope name plain lists _ ih => exact isOnePiece_scope closed plain lists (ih rfl)

/-! ### Behind a list -/

/-- A list of arguments that is closed goes on with its last argument. -/
theorem arguments_closed (lists : Lists args s) (one : IsOnePiece Nesting.top ('>' :: rest)) :
    ∃ last, last.foldl Nesting.step ⟨0, 1⟩ = ⟨0, 1⟩ ∧
      arguments (s ++ '>' :: rest) =
        args.dropLast.map (·.text) ++ [last ++ '>' :: trimEnd rest] := by
  induction lists with
  | none gap =>
    have whole : IsOnePiece Nesting.top (gap.text ++ '>' :: rest) := by
      apply (isOnePiece_of_blanks gap.blank).append
      rwa [foldl_step_blanks gap.blank]
    refine ⟨[], rfl, ?_⟩
    rw [arguments_of_isOnePiece whole (by simp), trim, trimStart_append gap.blank]
    exact congrArg ([·]) (trimEnd_of_visible (by decide) [] rest)
  | last before a after =>
    have whole : IsOnePiece Nesting.top (before.text ++ (a.text ++ after.text) ++ '>' :: rest) := by
      apply (a.isOnePiece_padded before after 0).append
      rwa [a.foldl_step_padded before after 0]
    have visible : (a.text ++ (after.text ++ '>' :: rest)).head?.any isBlank = false := by
      rw [List.head?_append_of_ne_nil _ a.nonempty]
      exact (ends_of_trimmed a.trimmed).1
    refine ⟨a.text ++ after.text, ?_, ?_⟩
    · rw [List.foldl_append, a.foldl_step, foldl_step_blanks after.blank]
    · rw [arguments_of_isOnePiece whole (by simp), trim, List.append_assoc, List.append_assoc,
        trimStart_append before.blank, trimStart_of_head visible, ← List.append_assoc,
        trimEnd_of_visible (by decide)]
      rfl
  | comma before a after more _ ih =>
    obtain ⟨last, open_, cut⟩ := ih
    refine ⟨last, open_, ?_⟩
    rw [List.dropLast_cons_of_ne_nil more, List.map_cons, List.cons_append, ← cut,
      List.append_assoc, List.cons_append]
    show kept (pieces ⟨0, 0⟩ _) = _
    rw [pieces_comma (a.isOnePiece_padded before after 0) (a.foldl_step_padded before after 0),
      kept_cons _ (pieces_ne_nil _ _), a.trim_padded]
    rfl

/-- No argument closes a bracket that is open in front of it. -/
theorem ArgumentText.text_ne {last : List Char} (a : ArgumentText)
    (open_ : last.foldl Nesting.step ⟨0, 1⟩ = ⟨0, 1⟩) (rest : List Char) :
    a.text ≠ last ++ '>' :: rest := by
  intro same
  have upTo : last ++ ['>'] <+: a.text := ⟨rest, by simp [same]⟩
  have nested := fun front part =>
    a.nested front ((List.mem_inits front a.text).mpr (List.IsPrefix.trans part upTo))
  have read := Spelling.foldl_step 1 nested
  rw [List.foldl_append, open_] at read
  -- Read behind one open bracket the front ends with none, but with its own brackets closed that
  -- one would still be open.
  have below : ((1 : Nat) + angleDepth 0 (last ++ ['>'])).toNat = 0 :=
    (congrArg Nesting.angles read).symm
  have := (nested _ List.prefix_rfl).2
  omega

/-- The arguments of a member are no arguments of their own: they, its name and the bracket in front
of it stand behind the last argument of its scope. -/
theorem arguments_of_member {members : List ArgumentText} (lists : Lists args s)
    (written : MemberText members rest) :
    ∃ last, arguments (s ++ rest) = args.dropLast.map (·.text) ++ [last ++ trimEnd rest] ∧
      ∀ a : ArgumentText, a.text ≠ last ++ trimEnd rest := by
  obtain ⟨inside, rfl⟩ : ∃ inside, rest = '>' :: inside := by
    cases written <;> exact ⟨_, rfl⟩
  obtain ⟨last, open_, cut⟩ := arguments_closed lists (written.isOnePiece rfl)
  have visible : trimEnd ('>' :: inside) = '>' :: trimEnd inside :=
    trimEnd_of_visible (by decide) [] inside
  rw [visible]
  exact ⟨last, cut, fun a => a.text_ne open_ (trimEnd inside)⟩

end CxxTrees.Spelling
