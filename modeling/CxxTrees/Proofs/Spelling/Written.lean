import CxxTrees.Proofs.Spelling.Ends
import CxxTrees.Spelling.Qualifiers

/-!
# Written qualifiers

A type is written as a name with cv-qualifiers on either side of it, or as a sign
with qualifiers behind it. What is read back from either is what was written.
-/

namespace CxxTrees
open Text

inductive Qualifier where
  | const | volatile
deriving DecidableEq

namespace Qualifier

def other : Qualifier → Qualifier
  | const => volatile
  | volatile => const

def word : Qualifier → List Char
  | const => Spelling.constWord
  | volatile => Spelling.volatileWord

def cv : Qualifier → Cv
  | const => { isConst := true }
  | volatile => { isVolatile := true }

end Qualifier

/-- Qualifiers as they are written: none, one, or both in either order. -/
inductive CvText where
  | none
  | one (q : Qualifier)
  | both (first : Qualifier) (gap : Gap)

namespace CvText

def cv : CvText → Cv
  | none => {}
  | one q => q.cv
  | both _ _ => { isConst := true, isVolatile := true }

theorem cv_eq_none {written : CvText} : written.cv = Cv.none ↔ written = none := by
  cases written with
  | none => exact iff_of_true rfl rfl
  | one q => cases q <;> exact iff_of_false nofun nofun
  | both q gap => exact iff_of_false nofun nofun

/-- The qualifiers, with a gap between them and a name behind them. -/
def before (gap : Gap) : CvText → List Char
  | none => []
  | one q => q.word ++ gap.text
  | both q g => q.word ++ g.text ++ (q.other.word ++ gap.text)

/-- The qualifiers, with blanks between them and what stands behind them. -/
def front (pad : List Char) : CvText → List Char
  | none => []
  | one q => q.word ++ pad
  | both q g => q.word ++ g.text ++ (q.other.word ++ pad)

/-- The qualifiers, with blanks between what stands before them and them. -/
def behind (pad : List Char) : CvText → List Char
  | none => []
  | one q => pad ++ q.word
  | both q g => pad ++ q.word ++ (g.text ++ q.other.word)

end CvText

namespace Spelling
variable {s r r' : List Char}

theorem constWord_eq : constWord = ['c', 'o', 'n', 's', 't'] := rfl

theorem volatileWord_eq : volatileWord = ['v', 'o', 'l', 'a', 't', 'i', 'l', 'e'] := rfl

/-! ### Peeling -/

section Peel
variable {take : List Char → List Char → Option (List Char)} {q : Qualifier}

theorem peel_none (bare : ∀ q : Qualifier, take q.word s = none) : peel take s = (Cv.none, s) := by
  have const : take constWord s = none := bare .const
  have volatile : take volatileWord s = none := bare .volatile
  simp [peel, peelOne, Cv.none, const, volatile]

theorem peel_one (first : take q.word s = some r) (only : take q.other.word s = none)
    (rest : take q.other.word r = none) : peel take s = (q.cv, r) := by
  cases q <;> simp_all [peel, peelOne, Cv.none, Qualifier.word, Qualifier.other, Qualifier.cv]

theorem peel_both (first : take q.word s = some r) (only : take q.other.word s = none)
    (second : take q.other.word r = some r') :
    peel take s = ({ isConst := true, isVolatile := true }, r') := by
  cases q <;> simp_all [peel, peelOne, Cv.none, Qualifier.word, Qualifier.other]

variable (take) in
/-- What is left alone while qualifiers come off does not decide which do. -/
theorem peel_map (f : List Char → List Char)
    (framed : ∀ (q : Qualifier) s, take q.word (f s) = (take q.word s).map f) (s : List Char) :
    peel take (f s) = ((peel take s).1, f (peel take s).2) := by
  have one (cv : Cv) (s : List Char) :
      peelOne take (cv, f s) = (peelOne take (cv, s)).map fun found => (found.1, f found.2) := by
    have const : take constWord (f s) = (take constWord s).map f := framed .const s
    have volatile : take volatileWord (f s) = (take volatileWord s).map f := framed .volatile s
    unfold peelOne
    simp only [const, volatile]
    cases cv.isConst <;> cases cv.isVolatile <;> cases take constWord s <;>
      cases take volatileWord s <;> rfl
  unfold peel
  rw [one]
  cases peelOne take (Cv.none, s) with
  | none => rfl
  | some found =>
    simp only [Option.map_some, one]
    cases peelOne take found <;> rfl

end Peel

/-! ### Qualifiers next to signs -/

theorem all_word (q : Qualifier) : q.word.all isAsciiWordChar = true := by
  cases q <;> decide

section Sign
variable {c : Char} (visible : isBlank c = false) (apart : isAsciiWordChar c = false)
include visible apart

/-- What stands behind a sign does not decide which qualifiers stand in front. -/
theorem leadingCv_sign (s after : List Char) :
    leadingCv (s ++ c :: after) = ((leadingCv s).1, (leadingCv s).2 ++ c :: after) := by
  unfold leadingCv
  exact peel_map (takeFront · true) (· ++ c :: after)
    (fun q s => takeFront_sign (all_word q) visible apart s after) s

/-- What stands in front of a sign does not decide which qualifiers stand behind. -/
theorem trailingCv_sign (front s : List Char) :
    trailingCv (front ++ c :: s) = ((trailingCv s).1, front ++ c :: (trailingCv s).2) := by
  unfold trailingCv
  exact peel_map (takeBack · true) (front ++ c :: ·)
    (fun q s => takeBack_sign (all_word q) visible apart front s) s

end Sign

/-! ### Qualifiers in front of a name -/

theorem takeFront_qualifier (q : Qualifier) {pad : List Char} (blank : pad.all isBlank = true)
    (apart : pad ≠ [] ∨ s.head?.any isAsciiWordChar = false)
    (visible : s.head?.any isBlank = false) :
    takeFront q.word true (q.word ++ pad ++ s) = some s := by
  have starts : (pad ++ s).head?.any isAsciiWordChar = false := by
    cases pad with
    | nil => simpa using apart
    | cons b pad => exact isAsciiWordChar_of_isBlank (List.all_eq_true.mp blank b List.mem_cons_self)
  rw [List.append_assoc, takeFront_word starts, trimStart_append blank, trimStart_of_head visible]

theorem takeFront_other (q : Qualifier) (s : List Char) :
    takeFront q.other.word true (q.word ++ s) = none := by
  apply takeFront_eq_none
  rintro ⟨rest, same, _⟩
  cases q <;> simp [Qualifier.word, Qualifier.other, constWord_eq, volatileWord_eq] at same

theorem head_word (q : Qualifier) (s : List Char) :
    (q.word ++ s).head?.any isBlank = false := by
  cases q <;> rfl

theorem leadingCv_front (cv : CvText) {pad : List Char} (blank : pad.all isBlank = true)
    (apart : pad ≠ [] ∨ s.head?.any isAsciiWordChar = false)
    (visible : s.head?.any isBlank = false) (bare : ∀ q : Qualifier, ¬ StartsWith q.word s) :
    leadingCv (cv.front pad ++ s) = (cv.cv, s) := by
  have name : ∀ q : Qualifier, takeFront q.word true s = none := fun q => takeFront_eq_none (bare q)
  cases cv with
  | none => exact peel_none name
  | one q =>
    refine peel_one (takeFront_qualifier q blank apart visible) ?_ (name q.other)
    rw [CvText.front, List.append_assoc]
    exact takeFront_other q _
  | both q g =>
    have inner := takeFront_qualifier q.other blank apart visible
    rw [CvText.front, List.append_assoc]
    refine peel_both (takeFront_qualifier q g.blank (.inl g.nonempty) ?_) ?_ inner
    · rw [List.append_assoc]
      exact head_word _ _
    · rw [List.append_assoc]
      exact takeFront_other q _

/-! ### Qualifiers behind a text -/

theorem takeBack_qualifier (q : Qualifier) {pad : List Char} (blank : pad.all isBlank = true)
    (apart : pad ≠ [] ∨ s.getLast?.any isAsciiWordChar = false)
    (visible : s.getLast?.any isBlank = false) :
    takeBack q.word true (s ++ (pad ++ q.word)) = some s := by
  have ends : (s ++ pad).getLast?.any isAsciiWordChar = false := by
    cases last : pad.getLast? with
    | none =>
      rw [List.getLast?_eq_none_iff] at last
      subst last
      simpa using apart
    | some b =>
      have := List.all_eq_true.mp blank b (List.mem_of_getLast? last)
      simpa [List.getLast?_append, last] using isAsciiWordChar_of_isBlank this
  rw [← List.append_assoc, takeBack_word ends, trimEnd_append blank, trimEnd_of_last visible]

theorem takeBack_other (q : Qualifier) (s : List Char) :
    takeBack q.other.word true (s ++ q.word) = none := by
  apply takeBack_eq_none
  rintro ⟨rest, same, _⟩
  have := congrArg List.getLast? same
  cases q <;> simp [Qualifier.word, Qualifier.other, constWord_eq, volatileWord_eq] at this

/-- A qualifier ends with a letter. -/
theorem getLast?_word (q : Qualifier) (s : List Char) :
    ∃ c, (s ++ q.word).getLast? = some c ∧ isBlank c = false ∧ isAsciiWordChar c = true := by
  have ends : ∃ c, q.word.getLast? = some c ∧ isBlank c = false ∧ isAsciiWordChar c = true := by
    cases q <;> exact ⟨_, rfl, by decide, rfl⟩
  obtain ⟨c, last, visible, letter⟩ := ends
  refine ⟨c, ?_, visible, letter⟩
  rw [List.getLast?_append, last, Option.some_or]

theorem last_word (q : Qualifier) (s : List Char) : (s ++ q.word).getLast?.any isBlank = false := by
  obtain ⟨c, last, visible, _⟩ := getLast?_word q s
  rw [last]
  exact visible

theorem trailingCv_behind (cv : CvText) {pad : List Char} (blank : pad.all isBlank = true)
    (apart : pad ≠ [] ∨ s.getLast?.any isAsciiWordChar = false)
    (visible : s.getLast?.any isBlank = false) (bare : ∀ q : Qualifier, ¬ EndsWith q.word s) :
    trailingCv (s ++ cv.behind pad) = (cv.cv, s) := by
  have name : ∀ q : Qualifier, takeBack q.word true s = none := fun q => takeBack_eq_none (bare q)
  cases cv with
  | none => rw [CvText.behind, List.append_nil]; exact peel_none name
  | one q =>
    refine peel_one (takeBack_qualifier q blank apart visible) ?_ (name q.other)
    rw [CvText.behind, ← List.append_assoc]
    exact takeBack_other q _
  | both q g =>
    have inner := takeBack_qualifier q blank apart visible
    have outer := takeBack_qualifier (s := s ++ (pad ++ q.word)) q.other g.blank (.inl g.nonempty)
      (by rw [← List.append_assoc]; exact last_word q _)
    rw [CvText.behind, ← List.append_assoc]
    refine peel_both outer ?_ (by cases q <;> exact inner)
    rw [← List.append_assoc]
    exact takeBack_other q.other _

/-- Behind nothing else, qualifiers come off whole. -/
theorem trailingCv_alone (cv : CvText) {pad : List Char} (blank : pad.all isBlank = true) :
    trailingCv (cv.behind pad) = (cv.cv, []) := by
  refine trailingCv_behind (s := []) cv blank (.inr rfl) rfl ?_
  rintro q ⟨rest, same, _⟩
  have nothing := (List.append_eq_nil_iff.mp same.symm).2
  cases q <;> cases nothing

/-- No qualifiers stand behind a sign that ends the text. -/
theorem trailingCv_concat {c : Char} (visible : isBlank c = false)
    (apart : isAsciiWordChar c = false) (s : List Char) :
    trailingCv (s ++ [c]) = (Cv.none, s ++ [c]) := by
  have nothing : trailingCv [] = (Cv.none, []) :=
    trailingCv_alone .none (rfl : ([] : List Char).all isBlank = true)
  rw [trailingCv_sign visible apart, nothing]

/-! ### Qualifiers on both sides -/

theorem head?_front (cv : CvText) (pad : List Char) (visible : s.head?.any isBlank = false) :
    (cv.front pad ++ s).head?.any isBlank = false := by
  cases cv with
  | none => exact visible
  | one q => rw [CvText.front, List.append_assoc]; exact head_word q _
  | both q g => rw [CvText.front, List.append_assoc, List.append_assoc]; exact head_word q _

theorem getLast?_behind (cv : CvText) (pad : List Char)
    (visible : s.getLast?.any isBlank = false) :
    (s ++ cv.behind pad).getLast?.any isBlank = false := by
  cases cv with
  | none => rwa [CvText.behind, List.append_nil]
  | one q => rw [CvText.behind, ← List.append_assoc]; exact last_word q _
  | both q g => rw [CvText.behind, ← List.append_assoc, ← List.append_assoc]; exact last_word _ _

/-- Qualifiers behind a text do not go on with a word that the text starts with. -/
theorem not_startsWith_behind (cv : CvText) {word pad : List Char}
    (word_ : word.all isAsciiWordChar = true) (blank : pad.all isBlank = true)
    (apart : pad ≠ [] ∨ s.getLast?.any isAsciiWordChar = false) (nonempty : s ≠ [])
    (absent : ¬ StartsWith word s) : ¬ StartsWith word (s ++ cv.behind pad) := by
  rcases apart with padded | last
  · have starts : (cv.behind pad).head?.any isAsciiWordChar = false := by
      cases pad with
      | nil => exact absurd rfl padded
      | cons b pad =>
        have here := List.all_eq_true.mp blank b List.mem_cons_self
        cases cv with
        | none => rfl
        | one => exact isAsciiWordChar_of_isBlank here
        | both => exact isAsciiWordChar_of_isBlank here
    exact mt (startsWith_append_iff word_ starts).mp absent
  · exact mt (startsWith_of_last word_ nonempty last) absent

theorem trim_written (before after : CvText) (pad pad' : List Char)
    (visible : s.head?.any isBlank = false) (visible' : s.getLast?.any isBlank = false)
    (nonempty : s ≠ []) :
    trim (before.front pad ++ (s ++ after.behind pad')) =
      before.front pad ++ (s ++ after.behind pad') := by
  apply trim_of_ends
  · apply head?_front before pad
    rwa [List.head?_append_of_ne_nil s nonempty]
  · rw [← List.append_assoc]
    apply getLast?_behind after pad'
    rwa [List.getLast?_append_of_ne_nil _ nonempty]

/-- Qualifiers come off both sides of a text that has none itself at its ends. Nothing has to
stand between them and a character that goes on no word. -/
theorem outerCv_written (before after : CvText) {pad pad' : List Char}
    (blank : pad.all isBlank = true) (blank' : pad'.all isBlank = true)
    (visible : s.head?.any isBlank = false) (visible' : s.getLast?.any isBlank = false)
    (apart : pad ≠ [] ∨ s.head?.any isAsciiWordChar = false)
    (apart' : pad' ≠ [] ∨ s.getLast?.any isAsciiWordChar = false) (nonempty : s ≠ [])
    (bare : ∀ q : Qualifier, ¬ StartsWith q.word s ∧ ¬ EndsWith q.word s) :
    outerCv (before.front pad ++ (s ++ after.behind pad')) = (before.cv.union after.cv, s) := by
  have head : (s ++ after.behind pad').head? = s.head? := List.head?_append_of_ne_nil s nonempty
  have starts (q : Qualifier) : ¬ StartsWith q.word (s ++ after.behind pad') :=
    not_startsWith_behind after (all_word q) blank' apart' nonempty (bare q).1
  have front := leadingCv_front before blank (by rwa [head]) (by rwa [head]) starts
  have back := trailingCv_behind after blank' apart' visible' fun q => (bare q).2
  unfold outerCv
  rw [trim_written before after pad pad' visible visible' nonempty]
  simp only [front, back]

/-- Up to a sign the qualifiers in front are found, and all that are written behind it. -/
theorem outerCv_sign {c : Char} (visible : isBlank c = false) (apart : isAsciiWordChar c = false)
    (s : List Char) (cv : CvText) {pad : List Char} (blank : pad.all isBlank = true) :
    outerCv (s ++ c :: cv.behind pad) =
      ((leadingCv (trimStart s)).1.union cv.cv, (leadingCv (trimStart s)).2 ++ [c]) := by
  have last : (cv.behind pad).getLast?.any isBlank = false := getLast?_behind (s := []) cv pad rfl
  have trimmed : trim (s ++ c :: cv.behind pad) = trimStart s ++ c :: cv.behind pad := by
    rw [trim, trimStart_of_visible visible, trimEnd_of_visible visible, trimEnd_of_last last]
  unfold outerCv
  rw [trimmed]
  simp only [leadingCv_sign visible apart, trailingCv_sign visible apart, trailingCv_alone cv blank]

/-! ### Tags -/

theorem stripTag_of_untagged (untagged : ∀ keyword ∈ tagKeywords, ¬ StartsWith keyword s) :
    stripTag s = s := by
  have kept : ∀ keyword ∈ tagKeywords, (takeFront keyword true s).getD s = s :=
    fun keyword member => by rw [takeFront_eq_none (untagged keyword member)]; rfl
  unfold stripTag
  simp only [tagKeywords, List.foldl_cons, List.foldl_nil]
  rw [kept "struct".toList (by simp [tagKeywords]), kept "class".toList (by simp [tagKeywords]),
    kept "union".toList (by simp [tagKeywords])]

/-! ### What is left of a text -/

theorem takeFront_sublist {word : List Char} {whole : Bool}
    (taken : takeFront word whole s = some r) : r.Sublist s := by
  unfold takeFront at taken
  split at taken
  · cases taken
  · rename_i rest found
    split at taken
    · cases taken
    · obtain rfl := Option.some.inj taken
      rw [behind?_eq_some.mp found]
      exact (trimStart_suffix rest).sublist.trans (List.sublist_append_right word rest)

theorem takeBack_sublist {word : List Char} {whole : Bool}
    (taken : takeBack word whole s = some r) : r.Sublist s := by
  unfold takeBack at taken
  split at taken
  · cases taken
  · rename_i rest found
    split at taken
    · cases taken
    · obtain rfl := Option.some.inj taken
      rw [before?_eq_some.mp found]
      have trimmed : trimEnd rest <+: rest := trimEnd_prefix rest
      exact trimmed.sublist.trans (List.sublist_append_left rest word)

theorem peel_sublist {take : List Char → List Char → Option (List Char)}
    (each : ∀ {word s r}, take word s = some r → r.Sublist s) (s : List Char) :
    (peel take s).2.Sublist s := by
  have one {found next : Cv × List Char} (peeled : peelOne take found = some next) :
      next.2.Sublist found.2 := by
    have kept {absent : Bool} {word rest : List Char}
        (taken : (if absent then none else take word found.2) = some rest) :
        rest.Sublist found.2 := by
      split at taken
      · cases taken
      · exact each taken
    unfold peelOne at peeled
    generalize const : (if found.1.isConst then none else take constWord found.2) = const?
      at peeled
    generalize volatile : (if found.1.isVolatile then none else take volatileWord found.2) =
      volatile? at peeled
    cases const? with
    | some rest =>
      obtain rfl := Option.some.inj peeled
      exact kept const
    | none =>
      cases volatile? with
      | some rest =>
        obtain rfl := Option.some.inj peeled
        exact kept volatile
      | none => cases peeled
  unfold peel
  cases first : peelOne take (Cv.none, s) with
  | none => exact List.Sublist.refl s
  | some found =>
    simp only
    cases second : peelOne take found with
    | none => exact one first
    | some next => exact (one second).trans (one first)

theorem leaf_sublist (s : List Char) : (leaf s).2.Sublist s := by
  have tag (keyword s : List Char) : ((takeFront keyword true s).getD s).Sublist s := by
    cases taken : takeFront keyword true s with
    | none => exact List.Sublist.refl s
    | some rest => exact takeFront_sublist taken
  have trimmed : (trim s).Sublist s := by
    have back : trim s <+: trimStart s := trimEnd_prefix (trimStart s)
    exact back.sublist.trans (trimStart_suffix s).sublist
  have front : (leadingCv (trim s)).2.Sublist (trim s) := peel_sublist takeFront_sublist _
  have back : (outerCv s).2.Sublist (leadingCv (trim s)).2 := peel_sublist takeBack_sublist _
  have name : (leaf s).2.Sublist (outerCv s).2 := by
    unfold leaf stripTag tagKeywords
    simp only [List.foldl_cons, List.foldl_nil]
    exact (tag _ _).trans ((tag _ _).trans (tag _ _))
  exact name.trans (back.trans (front.trans trimmed))

end Spelling

/-! ### Written names -/

/-- A name with qualifiers on either side. The name itself has none at its ends. -/
structure LeafText where
  before : CvText
  frontGap : Gap
  name : List Char
  backGap : Gap
  after : CvText
  nonempty : name ≠ []
  visible : name.head?.any isBlank = false ∧ name.getLast?.any isBlank = false
  bare : ∀ q : Qualifier, ¬ Spelling.StartsWith q.word name ∧ ¬ Spelling.EndsWith q.word name

namespace LeafText
open Spelling
variable (leaf : LeafText)

/-- The qualifiers on the two sides together. -/
def cv : Cv where
  isConst := leaf.before.cv.isConst || leaf.after.cv.isConst
  isVolatile := leaf.before.cv.isVolatile || leaf.after.cv.isVolatile

def text : List Char :=
  leaf.before.before leaf.frontGap ++ (leaf.name ++ leaf.after.behind leaf.backGap.text)

theorem outerCv_text : outerCv leaf.text = (leaf.cv, leaf.name) := by
  have front : leaf.before.before leaf.frontGap = leaf.before.front leaf.frontGap.text := by
    cases leaf.before <;> rfl
  rw [text, front]
  exact outerCv_written leaf.before leaf.after leaf.frontGap.blank leaf.backGap.blank
    leaf.visible.1 leaf.visible.2 (.inl leaf.frontGap.nonempty) (.inl leaf.backGap.nonempty)
    leaf.nonempty leaf.bare

end LeafText

/-! ### Written signs -/

/-- The signs that end a pointer, before its qualifiers. -/
def signs : List Char := ['*', ')', ']']

/-- A text up to a sign, with qualifiers behind that. -/
structure SignText where
  front : List Char
  sign : Char
  pad : List Char
  cv : CvText
  isSign : sign ∈ signs
  blank : pad.all isBlank = true

namespace SignText
open Spelling
variable (pointer : SignText)

/-- The text without its qualifiers. -/
def bare : List Char := pointer.front ++ [pointer.sign]

def text : List Char := pointer.bare ++ pointer.cv.behind pointer.pad

theorem class_sign :
    isBlank pointer.sign = false ∧ isAsciiWordChar pointer.sign = false ∧ pointer.sign ≠ '&' := by
  have each : signs.all fun c => !isBlank c && !isAsciiWordChar c && c != '&' := by decide
  have here := List.all_eq_true.mp each pointer.sign pointer.isSign
  simpa [and_assoc] using here

theorem getLast?_bare : pointer.bare.getLast? = some pointer.sign := List.getLast?_concat

theorem trailingCv_text : trailingCv pointer.text = (pointer.cv.cv, pointer.bare) := by
  obtain ⟨visible, apart, _⟩ := pointer.class_sign
  have whole : pointer.text = pointer.front ++ pointer.sign :: pointer.cv.behind pointer.pad := by
    simp [text, bare]
  rw [whole, trailingCv_sign visible apart, trailingCv_alone pointer.cv pointer.blank]
  rfl

theorem getLast?_text : ∃ c, pointer.text.getLast? = some c ∧ isBlank c = false ∧ c ≠ '&' := by
  have word (q : Qualifier) (s : List Char) :
      ∃ c, (s ++ q.word).getLast? = some c ∧ isBlank c = false ∧ c ≠ '&' := by
    obtain ⟨c, last, visible, letter⟩ := getLast?_word q s
    refine ⟨c, last, visible, ?_⟩
    rintro rfl
    cases letter
  unfold text
  cases pointer.cv with
  | none =>
    obtain ⟨visible, _, other⟩ := pointer.class_sign
    rw [CvText.behind, List.append_nil]
    exact ⟨_, pointer.getLast?_bare, visible, other⟩
  | one q =>
    rw [CvText.behind, ← List.append_assoc]
    exact word q _
  | both q gap =>
    rw [CvText.behind, ← List.append_assoc, ← List.append_assoc]
    exact word q.other _

end SignText

/-! ### Written ref-qualifiers -/

/-- A ref-qualifier, with blanks between what stands before it and it. -/
def refBehind (pad : List Char) : Option RefKind → List Char
  | none => []
  | some .lvalue => pad ++ ['&']
  | some .rvalue => pad ++ ['&', '&']

namespace Spelling

theorem takeBack_text {text s : List Char} :
    takeBack text false (s ++ text) = some (trimEnd s) := by
  simp [takeBack, before?_eq_some.mpr rfl]

theorem takeBack_text_eq_none {text s : List Char} (absent : ∀ rest, s ≠ rest ++ text) :
    takeBack text false s = none := by
  unfold takeBack
  cases found : before? text s with
  | none => rfl
  | some rest => exact absurd (before?_eq_some.mp found) (absent rest)

theorem trailingRef_behind {s pad : List Char} {c : Char} (ref : Option RefKind)
    (blank : pad.all isBlank = true) (last : s.getLast? = some c) (visible : isBlank c = false)
    (other : c ≠ '&') : trailingRef (s ++ refBehind pad ref) = (ref, s) := by
  have kept : trimEnd (s ++ pad) = s := by
    rw [trimEnd_append blank, trimEnd_of_last (by rw [last]; exact visible)]
  -- Neither the text nor the blanks behind it end with an ampersand.
  have apart (rest : List Char) : s ++ pad ≠ rest ++ ['&'] := by
    intro same
    have ends := congrArg List.getLast? same
    rw [List.getLast?_concat, List.getLast?_append, last] at ends
    cases tail : pad.getLast? with
    | none =>
      rw [tail, Option.none_or] at ends
      exact other (Option.some.inj ends)
    | some b =>
      rw [tail, Option.some_or] at ends
      obtain rfl := Option.some.inj ends
      cases List.all_eq_true.mp blank _ (List.mem_of_getLast? tail)
  have bare (rest : List Char) : s ≠ rest ++ ['&'] := by
    rintro rfl
    rw [List.getLast?_concat] at last
    exact other (Option.some.inj last).symm
  unfold trailingRef
  cases ref with
  | none =>
    have double : takeBack "&&".toList false s = none :=
      takeBack_text_eq_none fun rest same => bare (rest ++ ['&']) (by simpa using same)
    have single : takeBack "&".toList false s = none := takeBack_text_eq_none bare
    rw [refBehind, List.append_nil, double, single]
  | some kind =>
    cases kind with
    | lvalue =>
      have double : takeBack "&&".toList false (s ++ pad ++ ['&']) = none := by
        apply takeBack_text_eq_none
        intro rest same
        have same : s ++ pad ++ ['&'] = rest ++ ['&'] ++ ['&'] := by simpa using same
        exact apart rest (List.append_cancel_right same)
      have single : takeBack "&".toList false (s ++ pad ++ ['&']) = some s := by
        have taken : takeBack ['&'] false (s ++ pad ++ ['&']) = some (trimEnd (s ++ pad)) :=
          takeBack_text
        rwa [kept] at taken
      rw [refBehind, ← List.append_assoc, double, single]
    | rvalue =>
      have double : takeBack "&&".toList false (s ++ pad ++ ['&', '&']) = some s := by
        have taken : takeBack ['&', '&'] false (s ++ pad ++ ['&', '&']) =
            some (trimEnd (s ++ pad)) := takeBack_text
        rwa [kept] at taken
      rw [refBehind, ← List.append_assoc, double]

end Spelling

/-- The text of a pointer to a member function: qualifiers of both kinds behind a sign. -/
structure MemberText extends SignText where
  refPad : List Char
  ref : Option RefKind
  refBlank : refPad.all isBlank = true

namespace MemberText
open Spelling
variable (member : MemberText)

def spelling : List Char := member.text ++ refBehind member.refPad member.ref

theorem trailingRef_spelling : trailingRef member.spelling = (member.ref, member.text) := by
  obtain ⟨c, last, visible, other⟩ := member.getLast?_text
  exact trailingRef_behind member.ref member.refBlank last visible other

end MemberText

end CxxTrees
