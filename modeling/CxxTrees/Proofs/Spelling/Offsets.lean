import CxxTrees.Build.Instantiation
import CxxTrees.Proofs.Spelling.Ends
import CxxTrees.Spelling.Qualifiers

/-!
# Cuts at byte offsets

Spellings may be cut at offsets that were counted in bytes: behind the name of a
template, at the commas of an argument list, behind the last colon. An offset that is
the length of a front part of a text lies at the end of a character, so each of these
cuts succeeds, on any text, and gives what is cut off by characters.
-/

namespace CxxTrees.Text
variable {front s : List Char}

/-- The text from one offset up to another, if a character ends at both. -/
def slice? (first last : Nat) (s : List Char) : Option (List Char) := do
  let rest ← dropBytes? first s
  let behind ← dropBytes? last s
  if first ≤ last then some (rest.take (rest.length - behind.length)) else none

theorem byteLength_append (front s : List Char) :
    byteLength (front ++ s) = byteLength front + byteLength s := by
  induction front with
  | nil => simp [byteLength]
  | cons c front ih =>
    simp only [List.cons_append, byteLength, ih]
    omega

theorem byteLength_pos {s : List Char} (more : s ≠ []) : 0 < byteLength s := by
  cases s with
  | nil => exact absurd rfl more
  | cons c s =>
    have := c.utf8Size_pos
    simp only [byteLength]
    omega

theorem dropBytes?_front (front s : List Char) :
    dropBytes? (byteLength front) (front ++ s) = some s := by
  induction front with
  | nil => simp [byteLength, dropBytes?]
  | cons c front ih =>
    have positive := c.utf8Size_pos
    obtain ⟨n, length⟩ : ∃ n, byteLength (c :: front) = n + 1 :=
      Nat.exists_eq_add_one.mpr (byteLength_pos (List.cons_ne_nil c front))
    rw [length, List.cons_append, dropBytes?]
    simp only [byteLength] at length
    have rest : n + 1 - c.utf8Size = byteLength front := by omega
    rw [if_pos (by omega), rest, ih]

theorem slice?_part (front part s : List Char) :
    slice? (byteLength front) (byteLength (front ++ part)) (front ++ (part ++ s)) = some part := by
  have rest : dropBytes? (byteLength front) (front ++ (part ++ s)) = some (part ++ s) :=
    dropBytes?_front front (part ++ s)
  have behind : dropBytes? (byteLength (front ++ part)) (front ++ (part ++ s)) = some s := by
    rw [← List.append_assoc]
    exact dropBytes?_front (front ++ part) s
  have order : byteLength front ≤ byteLength (front ++ part) := by
    rw [byteLength_append]
    omega
  unfold slice?
  rw [rest, behind]
  simp [order]

end CxxTrees.Text

namespace CxxTrees
open Text

/-! ### Behind the name of a template -/

theorem splitName_some {s name tail : List Char} (h : splitName s = some (name, tail)) :
    s = name ++ '<' :: tail := by
  induction s generalizing name with
  | nil => cases h
  | cons c s ih =>
    unfold splitName at h
    split at h
    · rename_i bracket
      cases h
      rw [bracket]
      rfl
    · obtain ⟨⟨name', tail'⟩, found, same⟩ := Option.map_eq_some_iff.mp h
      cases same
      rw [ih found]
      rfl

/-- The body of an instantiation, cut out of the whole spelling once the closing bracket is off. -/
theorem dropBytes?_withoutClosing {s name tail : List Char}
    (h : splitName s = some (name, tail)) :
    (withoutClosing s).map (dropBytes? (byteLength name + 1)) = (withoutClosing tail).map some := by
  obtain rfl := splitName_some h
  have trimmed : trimEnd (name ++ '<' :: tail) = name ++ '<' :: trimEnd tail :=
    trimEnd_of_visible (by decide) name tail
  have width : byteLength name + 1 = byteLength (name ++ ['<']) := by
    rw [byteLength_append]
    rfl
  unfold withoutClosing
  rw [trimmed, Spelling.before?_append (by decide), Option.map_map]
  apply congrArg (Option.map · (Spelling.before? ['>'] (trimEnd tail)))
  funext body
  have whole : name ++ '<' :: body = (name ++ ['<']) ++ body := by simp
  rw [Function.comp_apply, whole, width]
  exact dropBytes?_front (name ++ ['<']) body

namespace Spelling

/-! ### At the commas of an argument list -/

/-- The arguments of `body`, cut out of it by offsets. Of the rest, which is read from `i` on,
the piece that is not complete yet began at `start`. -/
def cutFrom? (body : List Char) (d : Nesting) (start i : Nat) :
    (rest : List Char) → Option (List (List Char))
  | [] =>
    if start < byteLength body then (slice? start (byteLength body) body).map ([trim ·])
    else some []
  | c :: cs =>
    if c = ',' ∧ d = Nesting.top then do
      let piece ← slice? start i body
      return trim piece :: (← cutFrom? body d (i + 1) (i + c.utf8Size) cs)
    else cutFrom? body (d.step c) start (i + c.utf8Size) cs

/-- The arguments of a body, cut out of it by offsets. -/
def cutArguments? (body : List Char) : Option (List (List Char)) :=
  cutFrom? body Nesting.top 0 0 body

/-- Pieces without a last one that is empty, trimmed. -/
def kept (pieces : List (List Char)) : List (List Char) :=
  (if pieces.getLast? = some [] then pieces.dropLast else pieces).map trim

theorem pieces_ne_nil (d : Nesting) (s : List Char) : pieces d s ≠ [] := by
  induction s generalizing d with
  | nil => exact List.cons_ne_nil [] []
  | cons c s ih =>
    unfold pieces
    split
    · exact List.cons_ne_nil [] _
    · intro nothing
      exact ih (d.step c) (List.modifyHead_eq_nil_iff.mp nothing)

theorem modifyHead_nothing (pieces : List (List Char)) : pieces.modifyHead ([] ++ ·) = pieces := by
  cases pieces with
  | nil => rfl
  | cons piece more => rfl

theorem kept_cons (piece : List Char) {more : List (List Char)} (nonempty : more ≠ []) :
    kept (piece :: more) = trim piece :: kept more := by
  unfold kept
  rw [List.getLast?_cons_of_ne_nil nonempty]
  split
  · rw [List.dropLast_cons_of_ne_nil nonempty, List.map_cons]
  · rw [List.map_cons]

/-- `piece` is what was read of the piece that is not complete yet. -/
theorem cutFrom?_eq {body : List Char} (front piece rest : List Char) (d : Nesting)
    (whole : body = front ++ (piece ++ rest)) :
    cutFrom? body d (byteLength front) (byteLength (front ++ piece)) rest =
      some (kept ((pieces d rest).modifyHead (piece ++ ·))) := by
  induction rest generalizing front piece d with
  | nil =>
    have length : byteLength body = byteLength front + byteLength piece := by
      rw [whole, List.append_nil, byteLength_append]
    have cut : slice? (byteLength front) (byteLength (front ++ piece)) body = some piece := by
      rw [whole]
      exact slice?_part front piece []
    rw [byteLength_append, ← length] at cut
    unfold cutFrom? kept pieces
    rw [cut]
    by_cases empty : piece = []
    · simp [empty, length, byteLength]
    · have more : byteLength front < byteLength body := by
        have := byteLength_pos empty
        omega
      simp [empty, more]
  | cons c rest ih =>
    have next : byteLength (front ++ piece) + c.utf8Size = byteLength (front ++ (piece ++ [c])) := by
      simp only [byteLength_append, byteLength]
      omega
    unfold cutFrom? pieces
    split
    · rename_i comma
      obtain ⟨rfl, rfl⟩ := comma
      have cut : slice? (byteLength front) (byteLength (front ++ piece)) body = some piece := by
        rw [whole]
        exact slice?_part front piece _
      have later := ih (front ++ (piece ++ [','])) [] Nesting.top (by simp [whole])
      have width : ','.utf8Size = 1 := rfl
      rw [List.append_nil, ← next, width, modifyHead_nothing] at later
      rw [cut, width]
      simp only [Option.bind_eq_bind, Option.bind_some]
      rw [later]
      simp [kept_cons piece (pieces_ne_nil Nesting.top rest)]
    · rw [next, ih front (piece ++ [c]) (d.step c) (by simp [whole])]
      simp [List.modifyHead_modifyHead, Function.comp_def]

/-- No argument list has a comma at which it cannot be cut. -/
theorem cutArguments?_eq (body : List Char) : cutArguments? body = some (arguments body) := by
  have cut : cutArguments? body = _ := cutFrom?_eq [] [] body Nesting.top rfl
  rw [modifyHead_nothing] at cut
  exact cut

/-! ### Behind the last colon -/

/-- Where the last colon of a text stands, which begins at an offset. -/
def lastColon? (offset : Nat) : List Char → Option Nat
  | [] => none
  | c :: cs => (lastColon? (offset + c.utf8Size) cs).or (if c = ':' then some offset else none)

/-- The text behind the last colon, cut at the offset behind it. -/
def cutScope? (s : List Char) : Option (List Char) :=
  match lastColon? 0 s with
  | some colon => dropBytes? (colon + 1) s
  | none => some s

theorem lastColon?_cases (offset : Nat) (s : List Char) :
    (lastColon? offset s = none ∧ ':' ∉ s) ∨
      ∃ front back, s = front ++ ':' :: back ∧ ':' ∉ back ∧
        lastColon? offset s = some (offset + byteLength front) := by
  induction s generalizing offset with
  | nil => exact .inl ⟨rfl, List.not_mem_nil⟩
  | cons c s ih =>
    unfold lastColon?
    rcases ih (offset + c.utf8Size) with ⟨missing, absent⟩ | ⟨front, back, rfl, absent, found⟩
    · by_cases colon : c = ':'
      · refine .inr ⟨[], s, by simp [colon], absent, ?_⟩
        rw [missing, if_pos colon]
        rfl
      · refine .inl ⟨by simp [missing, colon], ?_⟩
        simp [absent, Ne.symm colon]
    · refine .inr ⟨c :: front, back, rfl, absent, ?_⟩
      simp [found, byteLength, Nat.add_assoc]

theorem takeWhile_plain {back : List Char} (absent : ':' ∉ back) (rest : List Char) :
    (back.reverse ++ rest).takeWhile (· != ':') = back.reverse ++ rest.takeWhile (· != ':') := by
  apply List.takeWhile_append_of_pos
  intro c member
  have other : c ≠ ':' := by
    rintro rfl
    exact absent (List.mem_reverse.mp member)
  simp [other]

theorem unscoped_of_plain {s : List Char} (absent : ':' ∉ s) : unscoped s = s := by
  have plain := takeWhile_plain absent []
  unfold unscoped
  rw [List.append_nil, List.takeWhile_nil, List.append_nil] at plain
  rw [plain, List.reverse_reverse]

theorem unscoped_append (front back : List Char) :
    unscoped (front ++ ':' :: back) = unscoped back := by
  have reversed : (front ++ ':' :: back).reverse = back.reverse ++ ':' :: front.reverse := by simp
  unfold unscoped
  rw [reversed, List.takeWhile_append, List.takeWhile_cons_of_neg (by decide), List.append_nil]
  split
  · rename_i whole
    rw [(List.takeWhile_prefix _).eq_of_length whole]
  · rfl

theorem unscoped_behind {back : List Char} (absent : ':' ∉ back) (front : List Char) :
    unscoped (front ++ ':' :: back) = back := by
  rw [unscoped_append, unscoped_of_plain absent]

/-- Behind its last colon every text can be cut. -/
theorem cutScope?_eq (s : List Char) : cutScope? s = some (unscoped s) := by
  unfold cutScope?
  rcases lastColon?_cases 0 s with ⟨missing, absent⟩ | ⟨front, back, rfl, absent, found⟩
  · rw [missing, unscoped_of_plain absent]
  · have whole : front ++ ':' :: back = (front ++ [':']) ++ back := by simp
    have width : 0 + byteLength front + 1 = byteLength (front ++ [':']) := by
      rw [byteLength_append, Nat.zero_add]
      rfl
    rw [found, unscoped_behind absent]
    show dropBytes? (0 + byteLength front + 1) _ = _
    rw [width, whole]
    exact dropBytes?_front (front ++ [':']) back

end Spelling
end CxxTrees
