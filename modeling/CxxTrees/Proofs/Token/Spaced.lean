import CxxTrees.Proofs.Token.Rendered
import CxxTrees.Proofs.Token.SideBySide

/-!
# Spaced tokens

A token that was read in some text is read whole in front of blanks, and alone. So the
tokens of a text come back from every text that has gaps between them, whatever stood
between them before.
-/

namespace CxxTrees.Token
open Text
variable {t r : List Char}

/-! ### Tokens outside of their text -/

theorem Stands.gap (stands : Stands t r) (more : r ≠ []) (gap : Gap) (s : List Char) :
    Stands t (gap.text ++ s) := by
  obtain ⟨b, rest, same, blank⟩ := gap.head_append s
  rw [same]
  exact (stands_iff more stands).mpr (not_runsOn_blank blank)

theorem Stands.alone (stands : Stands t r) : Stands t [] := by
  by_cases more : r = []
  · exact more ▸ stands
  · exact (stands_iff more stands).mpr not_runsOn_nil

theorem scan_alone (stands : Stands t []) : scan t = [t] := by
  simpa [scan_nil] using scan_of_stands stands

/-- Each token of a text is cut into itself. -/
theorem scan_of_mem {s : List Char} (member : t ∈ scan s) : scan t = [t] := by
  induction s using scan_induction with
  | nil => cases member
  | blank c s blank ih =>
    rw [scan_cons, if_pos blank] at member
    exact ih member
  | token u s stands ih =>
    rw [scan_of_stands stands] at member
    rcases List.mem_cons.mp member with rfl | later
    · exact scan_alone stands.alone
    · exact ih later

/-! ### Gaps between tokens -/

/-- Texts one behind the other, with a gap between any two of them. -/
def spread (gap : Nat → Gap) : List (List Char) → List Char
  | [] => []
  | [t] => t
  | t :: u :: ts => t ++ ((gap 0).text ++ spread (fun n => gap (n + 1)) (u :: ts))

theorem scan_spread {s : List Char} {ts : List (List Char)} (tokens : scan s = ts)
    (gap : Nat → Gap) : scan (spread gap ts) = ts := by
  induction ts generalizing s gap with
  | nil => rfl
  | cons t ts ih =>
    obtain ⟨r, stands, rest⟩ := exists_stands tokens
    cases ts with
    | nil => exact scan_alone stands.alone
    | cons u us =>
      -- There is another token, so some text stood behind this one.
      have more : r ≠ [] := by
        rintro rfl
        cases rest
      rw [spread, scan_of_stands (stands.gap more (gap 0) _), scan_blanks (gap 0).blank, ih rest]

/-- Tokens with any gaps between them and any blanks in front are cut into the same tokens, and
each of them alone into itself. -/
theorem ofText_spread (s : List Char) (front : Blanks) (gap : Nat → Gap) :
    ofText (front.text ++ spread gap ((ofText s).map String.toList)) = ofText s ∧
      ∀ t ∈ ofText s, ofText t.toList = [t] := by
  constructor
  · rw [map_toList_ofText, ofText, scan_blanks front.blank, scan_spread rfl, ofText]
  · intro t member
    obtain ⟨u, scanned, rfl⟩ := List.mem_map.mp member
    rw [String.toList_ofList, ofText, scan_of_mem scanned, List.map_singleton]

/-- A literal that is never closed takes in what was written behind it, but nothing in front. -/
example : ofText "a\t\"b  c".toList = ["a", "\"b  c"] ∧
    ofText (spread (fun _ => .space) ["a".toList, "\"b  c".toList]) = ["a", "\"b  c"] := by decide

end CxxTrees.Token
