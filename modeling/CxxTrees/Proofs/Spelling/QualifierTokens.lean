import CxxTrees.Proofs.Spelling.Written
import CxxTrees.Proofs.Token.SideBySide

/-!
# Qualifiers and tokens

A qualifier that is taken off an end of a spelling is a token of it, unless the ASCII
letters around it are all that was looked at: a word goes on in every script, and a
literal that is not closed takes everything along. `scan_outerCv_iff` says that in all
other spellings the qualifiers are the tokens in front of the rest and behind it.
-/

namespace CxxTrees
open Text Token

/-- The qualifiers of a list, as a set. -/
def Qualifier.cvs (qs : List Qualifier) : Cv where
  isConst := decide (.const ∈ qs)
  isVolatile := decide (.volatile ∈ qs)

theorem Qualifier.cvs_append (front back : List Qualifier) :
    cvs (front ++ back) = (cvs front).union (cvs back) := by
  simp [cvs, Cv.union]

theorem Qualifier.cvs_reverse (qs : List Qualifier) : cvs qs.reverse = cvs qs := by
  simp [cvs]

namespace Spelling
variable {q : Qualifier} {qs : List Qualifier} {s r gap : List Char}

/-! ### Words that are taken off -/

theorem takeFront_some (taken : takeFront q.word true s = some r) :
    ∃ gap, s = q.word ++ (gap ++ r) ∧ gap.all isBlank = true ∧
      (gap ++ r).head?.any isAsciiWordChar = false := by
  obtain ⟨rest, rfl, apart⟩ := isSome_takeFront.mp (Option.isSome_of_eq_some taken)
  rw [takeFront_word apart, Option.some.injEq] at taken
  obtain ⟨gap, parts, blank⟩ := exists_trimStart rest
  rw [taken] at parts
  exact ⟨gap, by rw [← parts], blank, parts ▸ apart⟩

theorem takeBack_some (taken : takeBack q.word true s = some r) :
    ∃ gap, s = r ++ gap ++ q.word ∧ gap.all isBlank = true ∧
      (r ++ gap).getLast?.any isAsciiWordChar = false ∧ r.getLast?.any isBlank = false := by
  obtain ⟨rest, rfl, apart⟩ := isSome_takeBack.mp (Option.isSome_of_eq_some taken)
  rw [takeBack_word apart, Option.some.injEq] at taken
  obtain ⟨gap, parts, blank⟩ := exists_trimEnd rest
  rw [taken] at parts
  exact ⟨gap, by rw [← parts], blank, parts ▸ apart, taken ▸ last_trimEnd rest⟩

/-- The qualifiers `qs` are taken off `s` one after the other, and `r` is left. -/
inductive Peels (take : List Char → List Char → Option (List Char)) :
    List Qualifier → List Char → List Char → Prop where
  | nil {s : List Char} : Peels take [] s s
  | cons {q : Qualifier} {qs : List Qualifier} {s r r' : List Char}
    (one : take q.word s = some r) (more : Peels take qs r r') : Peels take (q :: qs) s r'

section Peel
variable {take : List Char → List Char → Option (List Char)}

theorem peelOne_some {found found' : Cv × List Char} (one : peelOne take found = some found') :
    ∃ q : Qualifier, take q.word found.2 = some found'.2 ∧ found'.1 = q.cv.union found.1 := by
  simp only [peelOne] at one
  split at one
  · rename_i const
    split at const
    · cases const
    · cases one
      exact ⟨.const, const, by simp [Qualifier.cv, Cv.union]⟩
  · rename_i volatile
    split at volatile
    · cases volatile
    · cases one
      exact ⟨.volatile, volatile, by simp [Qualifier.cv, Cv.union]⟩
  · cases one

theorem peels_peel (take : List Char → List Char → Option (List Char)) (s : List Char) :
    ∃ qs, Peels take qs s (peel take s).2 ∧ (peel take s).1 = Qualifier.cvs qs := by
  unfold peel
  cases first : peelOne take (Cv.none, s) with
  | none => exact ⟨[], .nil, rfl⟩
  | some found =>
    obtain ⟨q, taken, cv⟩ := peelOne_some first
    cases second : peelOne take found with
    | none =>
      simp only [second, Option.getD_none]
      refine ⟨[q], .cons taken .nil, ?_⟩
      rw [cv]
      cases q <;> rfl
    | some found' =>
      obtain ⟨q', taken', cv'⟩ := peelOne_some second
      simp only [second, Option.getD_some]
      refine ⟨[q, q'], .cons taken (.cons taken' .nil), ?_⟩
      rw [cv', cv]
      cases q <;> cases q' <;> rfl

end Peel

/-! ### Qualifiers in front -/

/-- `s` is the qualifiers `qs` with `r` behind them. Only the last of them may have no gap
behind it. -/
inductive Leads : List Qualifier → List Char → List Char → Prop where
  | nil {r : List Char} : Leads [] r r
  | tight {q : Qualifier} {r : List Char} (apart : r.head?.any isAsciiWordChar = false) :
    Leads [q] (q.word ++ r) r
  | gap {q : Qualifier} {qs : List Qualifier} {s r : List Char} (gap : Gap) (more : Leads qs s r) :
    Leads (q :: qs) (q.word ++ (gap.text ++ s)) r

theorem head_letter (q : Qualifier) (s : List Char) :
    (q.word ++ s).head?.any isAsciiWordChar = true := by
  cases q <;> rfl

theorem leads_of_peels (peels : Peels (takeFront · true) qs s r) : Leads qs s r := by
  induction peels with
  | nil => exact .nil
  | cons one more ih =>
    obtain ⟨gap, rfl, blank, apart⟩ := takeFront_some one
    by_cases none : gap = []
    · subst none
      cases more with
      | nil => exact .tight apart
      | cons one' _ =>
        obtain ⟨gap', rfl, _⟩ := takeFront_some one'
        rw [List.nil_append, head_letter] at apart
        cases apart
    · exact .gap ⟨gap, none, blank⟩ ih

theorem stands_word_iff (q : Qualifier) (r : List Char) :
    Stands q.word r ↔ r.head?.any isIdentifierChar = false := by
  obtain ⟨c, w, word, start, visible, whole, plain⟩ :
      ∃ c w, q.word = c :: w ∧ isIdentifierStart c = true ∧ isBlank c = false ∧
        w.all isIdentifierChar = true ∧ c :: w ∉ encodingWords := by
    cases q
    · exact ⟨'c', _, rfl, by decide, by decide, by decide, by decide⟩
    · exact ⟨'v', _, rfl, by decide, by decide, by decide, by decide⟩
  have alone : Stands q.word [' '] := by
    rw [word]
    refine ⟨c, w, rfl, visible, ?_⟩
    rw [extent_of_isIdentifierStart start, wordExtent_append whole (by rintro _ _ ⟨⟩; decide)]
    rfl
  rw [stands_iff (by simp) alone, word, runsOn_word start]
  cases r with
  | nil => simp
  | cons b r => simp [whole, plain]

theorem stands_word_gap (q : Qualifier) (gap : Gap) (s : List Char) :
    Stands q.word (gap.text ++ s) := by
  obtain ⟨b, rest, same, blank⟩ := gap.head_append s
  rw [same, stands_word_iff]
  exact isIdentifierChar_of_isBlank blank

/-- A gap ends in a blank. -/
theorem any_getLast?_gap (gap : Gap) (s : List Char) :
    (s ++ gap.text).getLast?.any isBlank = true := by
  obtain ⟨text, nonempty, blank⟩ := gap
  rw [List.getLast?_append, List.getLast?_eq_some_getLast nonempty]
  exact List.all_eq_true.mp blank _ (List.getLast_mem nonempty)

/-- The last qualifier in front of `r` is a part of a longer word. -/
def Touches (lead r : List Char) : Prop :=
  lead.getLast?.any (! isBlank ·) = true ∧ r.head?.any isIdentifierChar = true

/-- The qualifiers `qs` are tokens of `lead` in front of `r`, but for the last one where this
is a part of a longer word. -/
structure TokensInFront (qs : List Qualifier) (lead r : List Char) : Prop where
  whole : ¬ Touches lead r → scan (lead ++ r) = qs.map Qualifier.word ++ scan r
  cut : Touches lead r → ∃ (qs' : List Qualifier) (q : Qualifier),
    scan (lead ++ r) = qs'.map Qualifier.word ++ scan (q.word ++ r) ∧
      r.head?.any isAsciiWordChar = false

theorem Leads.tokens (leads : Leads qs s r) : ∃ lead, s = lead ++ r ∧ TokensInFront qs lead r := by
  induction leads with
  | nil => exact ⟨[], rfl, fun _ => rfl, by rintro ⟨visible, _⟩; cases visible⟩
  | @tight q r apart =>
    have visible : q.word.getLast?.any (! isBlank ·) = true := by cases q <;> rfl
    refine ⟨q.word, rfl, fun apart => ?_, fun _ => ⟨[], q, rfl, apart⟩⟩
    refine scan_of_stands ((stands_word_iff q r).mpr ?_)
    exact Bool.eq_false_iff.mpr fun word => apart ⟨visible, word⟩
  | @gap q qs s r gap more ih =>
    obtain ⟨lead, rfl, whole, cut⟩ := ih
    have scanned : scan (q.word ++ (gap.text ++ lead) ++ r) = q.word :: scan (lead ++ r) := by
      rw [List.append_assoc, List.append_assoc, scan_of_stands (stands_word_gap q gap _),
        scan_blanks gap.blank]
    have touches : Touches (q.word ++ (gap.text ++ lead)) r ↔ Touches lead r := by
      refine and_congr_left fun _ => ?_
      rw [← List.append_assoc, List.getLast?_append]
      cases last : lead.getLast? with
      | none =>
        obtain ⟨c, same, blank⟩ := (Option.any_eq_true _ _).mp (any_getLast?_gap gap q.word)
        simp [same, blank]
      | some c => rfl
    refine ⟨q.word ++ (gap.text ++ lead), by simp, fun apart => ?_, fun touching => ?_⟩
    · rw [scanned, whole (fun touching => apart (touches.mpr touching))]
      rfl
    · obtain ⟨qs', q', same, apart⟩ := cut (touches.mp touching)
      exact ⟨q :: qs', q', by rw [scanned, same]; rfl, apart⟩

theorem exists_leadingCv (s : List Char) :
    ∃ qs lead, (leadingCv s).1 = Qualifier.cvs qs ∧ s = lead ++ (leadingCv s).2 ∧
      TokensInFront qs lead (leadingCv s).2 := by
  obtain ⟨qs, peels, cv⟩ := peels_peel (takeFront · true) s
  obtain ⟨lead, tokens⟩ := (leads_of_peels peels).tokens
  exact ⟨qs, lead, cv, tokens⟩

/-! ### Qualifiers behind -/

/-- `s` is `r` with the qualifiers `qs` behind it. Only the first of them may have no gap in
front of it. -/
inductive Trails : List Qualifier → List Char → List Char → Prop where
  | nil {r : List Char} : Trails [] r r
  | tight {q : Qualifier} {r : List Char} (apart : r.getLast?.any isAsciiWordChar = false) :
    Trails [q] (r ++ q.word) r
  | gap {q : Qualifier} {qs : List Qualifier} {s r : List Char} (gap : Gap) (more : Trails qs s r) :
    Trails (qs ++ [q]) (s ++ (gap.text ++ q.word)) r

theorem trails_of_peels (peels : Peels (takeBack · true) qs s r) : Trails qs.reverse s r := by
  induction peels with
  | nil => exact .nil
  | @cons q qs s r r' one more ih =>
    obtain ⟨gap, rfl, blank, apart, _⟩ := takeBack_some one
    rw [List.reverse_cons]
    by_cases none : gap = []
    · subst none
      rw [List.append_nil] at apart ⊢
      cases more with
      | nil => exact .tight apart
      | @cons q' _ _ _ _ one' _ =>
        obtain ⟨gap', rfl, _⟩ := takeBack_some one'
        obtain ⟨c, last, _, letter⟩ := getLast?_word q' (_ ++ gap')
        rw [last] at apart
        exact absurd letter (by simpa using apart)
    · rw [List.append_assoc]
      exact .gap ⟨gap, none, blank⟩ ih

theorem not_isOpenLiteral_word (q : Qualifier) : ¬ IsOpenLiteral q.word := fun unclosed =>
  not_stands_of_open unclosed ((stands_word_iff q [' ']).mpr rfl)

theorem scan_word (q : Qualifier) : scan q.word = [q.word] := by
  have := scan_of_stands ((stands_word_iff q []).mpr rfl)
  rwa [List.append_nil] at this

/-- The qualifiers `qs` are the tokens of `back` behind `r`, which starts with a blank, or with
a qualifier that no ASCII letter stands in front of. -/
structure TokensBehind (qs : List Qualifier) (back r : List Char) : Prop where
  scanned : scan back = qs.map Qualifier.word
  first : ∀ b rest, back = b :: rest → IsPlain b ∧
    (isBlank b = true ∨ isAsciiWordChar b = true ∧ r.getLast?.any isAsciiWordChar = false)

theorem Trails.tokens (trails : Trails qs s r) :
    ∃ back, s = r ++ back ∧ TokensBehind qs back r := by
  induction trails with
  | nil => exact ⟨[], (List.append_nil _).symm, rfl, nofun⟩
  | @tight q r apart =>
    have letter : ∀ b rest, q.word = b :: rest → IsPlain b ∧ isAsciiWordChar b = true := by
      rintro b rest same
      cases q <;> cases same <;> decide
    exact ⟨q.word, rfl, scan_word q, fun b rest same =>
      (letter b rest same).imp_right fun letter => .inr ⟨letter, apart⟩⟩
  | @gap q qs s r gap more ih =>
    obtain ⟨back, rfl, scanned, first⟩ := ih
    obtain ⟨b, rest, same, blank⟩ := gap.head_append q.word
    have closed : ¬ LeavesOpen back := by
      rintro ⟨t, member, unclosed⟩
      rw [scanned] at member
      obtain ⟨q', _, rfl⟩ := List.mem_map.mp member
      exact not_isOpenLiteral_word q' unclosed
    refine ⟨back ++ (gap.text ++ q.word), by simp, ?_, fun b' rest' same' => ?_⟩
    · rw [same, scan_append_separator (isSeparator_of_isBlank blank) closed, ← same,
        scan_blanks gap.blank, scan_word, scanned, List.map_append]
      rfl
    · cases back with
      | nil =>
        rw [List.nil_append, same] at same'
        cases same'
        exact ⟨(isSeparator_of_isBlank blank).plain, .inl blank⟩
      | cons c back =>
        cases same'
        exact first _ _ rfl

theorem last_of_peels (peels : Peels (takeBack · true) qs s r)
    (visible : s.getLast?.any isBlank = false) : r.getLast?.any isBlank = false := by
  induction peels with
  | nil => exact visible
  | cons one _ ih =>
    obtain ⟨_, _, _, _, visible⟩ := takeBack_some one
    exact ih visible

theorem exists_trailingCv (s : List Char) :
    ∃ qs back, (trailingCv s).1 = Qualifier.cvs qs ∧ s = (trailingCv s).2 ++ back ∧
      TokensBehind qs back (trailingCv s).2 ∧
      (s.getLast?.any isBlank = false → (trailingCv s).2.getLast?.any isBlank = false) := by
  obtain ⟨qs, peels, cv⟩ := peels_peel (takeBack · true) s
  obtain ⟨back, parts, tokens⟩ := (trails_of_peels peels).tokens
  exact ⟨qs.reverse, back, cv.trans (Qualifier.cvs_reverse qs).symm, parts, tokens,
    last_of_peels peels⟩

/-! ### Tokens that are no qualifiers -/

def isName (t : List Char) : Bool := t != constWord && t != volatileWord

theorem filter_words (qs : List Qualifier) : (qs.map Qualifier.word).filter isName = [] := by
  have word : ∀ q : Qualifier, isName q.word = false := by rintro (_ | _) <;> decide
  simp [word]

/-- A token with anything but ASCII letters in it is no qualifier. -/
theorem isName_of_mem {t : List Char} {c : Char} (member : c ∈ t)
    (other : isAsciiWordChar c = false) : isName t = true := by
  have letters : ∀ q : Qualifier, t ≠ q.word := by
    rintro q rfl
    have := List.all_eq_true.mp (all_word q) c member
    simp [other] at this
  have const : t ≠ constWord := letters .const
  have volatile : t ≠ volatileWord := letters .volatile
  simp [isName, const, volatile]

theorem exists_mem_of_open {t : List Char} (unclosed : IsOpenLiteral t) :
    ∃ c ∈ t, isAsciiWordChar c = false := by
  obtain @⟨word, v, q, _, quote, _⟩ := unclosed
  refine ⟨q, by simp, ?_⟩
  rcases isQuote_iff.mp quote with rfl | rfl <;> decide

theorem isName_of_open {t : List Char} (unclosed : IsOpenLiteral t) : isName t = true := by
  obtain ⟨c, member, other⟩ := exists_mem_of_open unclosed
  exact isName_of_mem member other

/-! ### Qualifiers that are no tokens -/

/-- Where the qualifiers of a spelling are told from the rest inside of a token. -/
inductive CutsToken (s : List Char) : Prop where
  | leading {lead : List Char} (taken : trim s = lead ++ (leadingCv (trim s)).2)
    (touches : Touches lead (leadingCv (trim s)).2)
  | trailing {back : List Char} (taken : (leadingCv (trim s)).2 = (outerCv s).2 ++ back)
    (reaches : ReachesInto (outerCv s).2 back)
  | blanks (unclosed : LeavesOpen s) (blank : s.getLast?.any isBlank = true)

/-- The blanks that are trimmed off were a part of an open literal. -/
theorem filter_ne_of_blanks (unclosed : LeavesOpen s) (blank : s.getLast?.any isBlank = true)
    (visible : r.getLast?.any isBlank = false) :
    (scan s).filter isName ≠ (scan r).filter isName := by
  intro same
  obtain ⟨t, member, unclosed⟩ := unclosed
  have member' : t ∈ (scan r).filter isName :=
    same ▸ List.mem_filter.mpr ⟨member, isName_of_open unclosed⟩
  obtain ⟨a, rest, cut⟩ := List.append_of_mem member
  obtain ⟨a', rest', cut'⟩ := List.append_of_mem (List.mem_filter.mp member').1
  have last := (endsIn_of_open cut unclosed).1.getLast?_eq
  have last' := (endsIn_of_open cut' unclosed).1.getLast?_eq
  rw [last', ← last, blank] at visible
  cases visible

/-- The token that a qualifier was taken off starts with a letter, and the rest does not. -/
theorem filter_ne_of_leading {b : Char} {z z' : List Char} (word : isIdentifierChar b = true)
    (other : isAsciiWordChar b = false) :
    (scan (q.word ++ b :: z)).filter isName ≠ (scan (b :: z')).filter isName := by
  obtain ⟨x, more, front, cut, whole⟩ :=
    exists_scan_append ((stands_word_iff q []).mpr rfl) (b :: z)
  have inside : b ∈ q.word ++ x := by
    cases x with
    | nil => simp [stands_word_iff, word] at whole
    | cons c x =>
      obtain ⟨rfl, _⟩ := List.cons_prefix_cons.mp front
      simp
  have visible : isBlank b = false := by
    rw [Bool.eq_false_iff]
    intro blank
    simp [isIdentifierChar_of_isBlank blank] at word
  rw [cut, scan_cons, if_neg (Bool.eq_false_iff.mp visible),
    List.filter_cons_of_pos (isName_of_mem inside other),
    List.filter_cons_of_pos (isName_of_mem List.mem_cons_self other)]
  intro same
  have head := congrArg List.head? (List.cons.inj same).1
  have letter := head_letter q x
  rw [head] at letter
  simp [other] at letter

/-- The token that the rest ends in is a longer one in the spelling. -/
theorem filter_ne_of_trailing {b : Char} {rest : List Char} (reaches : ReachesInto r (b :: rest))
    (plain : IsPlain b)
    (apart : isBlank b = true ∨ r.getLast?.any isAsciiWordChar = false) :
    (scan (r ++ b :: rest)).filter isName ≠ (scan r).filter isName := by
  obtain ⟨t, ends, _, longer⟩ := reaches
  have foreign : ∃ c ∈ t, isAsciiWordChar c = false := by
    rcases longer with unclosed | runs
    · exact exists_mem_of_open unclosed
    · rcases apart with blank | apart
      · exact absurd runs (not_runsOn_blank blank)
      · obtain ⟨c, w, rfl, _⟩ := ends.stands
        have last := List.getLast?_eq_some_getLast (List.cons_ne_nil c w)
        rw [ends.getLast?_eq, last] at apart
        exact ⟨_, List.getLast_mem _, apart⟩
  obtain ⟨c, member, other⟩ := foreign
  obtain ⟨a, cut, cuts⟩ := ends.scan_append plain
  obtain ⟨x, more, _, first, whole⟩ := exists_scan_append ends.stands (b :: rest)
  intro same
  rw [cuts, cut, first, List.filter_append, List.filter_append, List.append_cancel_left_eq,
    List.filter_cons_of_pos (isName_of_mem (List.mem_append_left x member) other),
    List.filter_cons_of_pos (isName_of_mem member other)] at same
  have none : x = [] := by simpa using (List.cons.inj same).1
  exact (stands_cons_iff ends.stands).mp (whole none) longer

theorem last_leadingCv_trim (s : List Char) :
    (leadingCv (trim s)).2.getLast?.any isBlank = false := by
  obtain ⟨_, lead, _, parts, _⟩ := exists_leadingCv (trim s)
  have visible := last_trim s
  rw [parts, List.getLast?_append] at visible
  cases last : (leadingCv (trim s)).2.getLast? with
  | none => rfl
  | some c => rwa [last, Option.some_or] at visible

/-- No trailing qualifier starts where a word goes on with a letter that is not ASCII. -/
theorem exists_trailingCv_cons {b : Char} {z : List Char} (word : isIdentifierChar b = true)
    (other : isAsciiWordChar b = false) : ∃ z', (trailingCv (b :: z)).2 = b :: z' := by
  obtain ⟨_, tail, _, parts, ⟨_, first⟩, _⟩ := exists_trailingCv (b :: z)
  rcases List.cons_eq_append_iff.mp parts with ⟨_, behind⟩ | ⟨z', rest, _⟩
  · rcases (first b z behind).2 with blank | ⟨letter, _⟩
    · simp [isIdentifierChar_of_isBlank blank] at word
    · simp [other] at letter
  · exact ⟨z', rest⟩

theorem filter_ne_of_cutsToken (cuts : CutsToken s) :
    (scan s).filter isName ≠ (scan (outerCv s).2).filter isName := by
  obtain ⟨_, lead, _, partsFront, whole, cut⟩ := exists_leadingCv (trim s)
  obtain ⟨_, tail, _, partsBack, ⟨_, first⟩, last⟩ := exists_trailingCv (leadingCv (trim s)).2
  rw [← partsFront] at whole cut
  change _ = (outerCv s).2 ++ tail at partsBack
  by_cases blanks : LeavesOpen s ∧ s.getLast?.any isBlank = true
  · exact filter_ne_of_blanks blanks.1 blanks.2 (last (last_leadingCv_trim s))
  rw [← (scan_trim_iff s).mpr blanks]
  by_cases touches : Touches lead (leadingCv (trim s)).2
  · obtain ⟨qs, q, cut, other⟩ := cut touches
    obtain ⟨b, z, left⟩ : ∃ b z, (leadingCv (trim s)).2 = b :: z :=
      List.exists_cons_of_ne_nil fun none => by simp [Touches, none] at touches
    have word : isIdentifierChar b = true := by simpa [left] using touches.2
    have other : isAsciiWordChar b = false := by simpa [left] using other
    obtain ⟨z', rest⟩ : ∃ z', (outerCv s).2 = b :: z' := by
      change ∃ z', (trailingCv (leadingCv (trim s)).2).2 = b :: z'
      rw [left]
      exact exists_trailingCv_cons word other
    rw [cut, List.filter_append, filter_words, List.nil_append, left, rest]
    exact filter_ne_of_leading word other
  · rw [whole touches, List.filter_append, filter_words, List.nil_append]
    cases cuts with
    | leading taken touches' =>
      exact absurd (List.append_cancel_right (partsFront.symm.trans taken) ▸ touches') touches
    | trailing taken reaches =>
      obtain rfl := List.append_cancel_left (partsBack.symm.trans taken)
      obtain ⟨b, rest, rfl⟩ := List.exists_cons_of_ne_nil reaches.ne_nil
      obtain ⟨plain, apart⟩ := first b rest rfl
      rw [partsBack]
      exact filter_ne_of_trailing reaches plain (apart.imp_right And.right)
    | blanks unclosed blank => exact absurd ⟨unclosed, blank⟩ blanks

theorem exists_words (kept : ¬ CutsToken s) :
    ∃ front back : List Qualifier,
      scan s = front.map Qualifier.word ++ scan (outerCv s).2 ++ back.map Qualifier.word ∧
        (outerCv s).1 = Qualifier.cvs (front ++ back) := by
  obtain ⟨front, lead, cvFront, partsFront, whole, _⟩ := exists_leadingCv (trim s)
  obtain ⟨back, tail, cvBack, partsBack, ⟨scanned, first⟩, _⟩ :=
    exists_trailingCv (leadingCv (trim s)).2
  rw [← partsFront] at whole
  change _ = (outerCv s).2 ++ tail at partsBack
  have trimmed : scan (trim s) = scan s := (scan_trim_iff s).mpr fun ⟨unclosed, blank⟩ =>
    kept (.blanks unclosed blank)
  have behind : scan (leadingCv (trim s)).2 = scan (outerCv s).2 ++ scan tail := by
    rw [partsBack]
    cases tail with
    | nil => simp [scan_nil]
    | cons b tail =>
      exact scan_append (first b tail rfl).1 fun reaches => kept (.trailing partsBack reaches)
  refine ⟨front, back, ?_, ?_⟩
  · rw [← trimmed, whole fun touches => kept (.leading partsFront touches), behind, scanned,
      List.append_assoc]
  · rw [Qualifier.cvs_append, ← cvFront, ← cvBack]
    rfl

/-- The tokens of a spelling are those of what is left when its qualifiers are taken off, with
the qualifiers around them, exactly where no token is cut. -/
theorem scan_outerCv_iff (s : List Char) :
    (∃ front back : List Qualifier,
      scan s = front.map Qualifier.word ++ scan (outerCv s).2 ++ back.map Qualifier.word ∧
        (outerCv s).1 = Qualifier.cvs (front ++ back)) ↔ ¬ CutsToken s := by
  constructor
  · rintro ⟨front, back, same, _⟩ cuts
    apply filter_ne_of_cutsToken cuts
    rw [same, List.filter_append, List.filter_append, filter_words, filter_words,
      List.nil_append, List.append_nil]
  · exact exists_words

/-- The word that follows here goes on behind the first letters, which are ASCII alone. -/
theorem not_scan_outerCv :
    ¬ ∀ s : List Char, ∃ front back : List Qualifier,
      scan s = front.map Qualifier.word ++ scan (outerCv s).2 ++ back.map Qualifier.word ∧
        (outerCv s).1 = Qualifier.cvs (front ++ back) := by
  intro agree
  obtain ⟨front, back, same, _⟩ := agree "constée".toList
  have names := congrArg (List.filter isName) same
  rw [List.filter_append, List.filter_append, filter_words, filter_words, List.nil_append,
    List.append_nil] at names
  exact absurd names (by decide)

end Spelling
end CxxTrees
