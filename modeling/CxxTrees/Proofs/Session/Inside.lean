import CxxTrees.Proofs.Calls.FirstWalk
import CxxTrees.Proofs.Calls.Stops
import CxxTrees.Proofs.Snapshot.Links
import CxxTrees.Proofs.Spelling.Offsets
import CxxTrees.Proofs.Token.Extent

/-!
# Staying inside of the tables

From a cursor or a type of a snapshot whose handles all lie in their tables, no request
gets to a handle that does not. And no text is cut but where one of its characters ends.
-/

namespace CxxTrees
open Text

namespace Frontend
variable {fe : Frontend} {P : Stop → Prop} {c : Cursor}

theorem admits_of_closed (closed : fe.Closed) : fe.Admits (· ≠ .outsideTable) where
  spelling _ := nofun
  parts := .inl fun _ => nofun
  invalid _ := nofun
  untyped _ := nofun
  outside := .inr closed
  endless := .inl nofun

theorem entityAt_stopsBy (inside : fe.Inside P c) : StopsBy P (fe.entityAt c) :=
  stopsBy_return (cursor_stopsBy inside)

theorem entitiesFrom_stopsBy (admits : fe.Admits P) (inside : fe.Inside P c) :
    StopsBy P (fe.entitiesFrom c) := by
  refine stopsBy_bind (admits.fromRight_stopsBy inside) fun order walked => ?_
  have looked : StopsBy P (order.mapM fe.entityAt) := by
    apply mapM_stopsBy
    intro d member
    have inside' : fe.Inside P d := .inr (AdmitsFaults.fromRightWithin_hasCursor walked d member)
    exact entityAt_stopsBy inside'
  exact stopsBy_return looked

end Frontend

namespace Session

theorem registerTree_stopsBy {s : Session} {P : Stop → Prop} {c : Cursor}
    (admits : s.frontend.Admits P) (inside : s.frontend.Inside P c) :
    StopsBy P (s.registerTree c) := by
  have registered : StopsBy P (s.registry.insertTree s.frontend c) :=
    stopsBy_return (Frontend.entitiesFrom_stopsBy admits inside)
  exact stopsBy_return registered

/-- No look-up leaves the tables, in whatever state the session is. Every cut at a byte offset
succeeds and gives what is cut by characters, and no token is longer than the text it is in. -/
theorem stays_inside {recorded : Snapshot} (closed : recorded.Closed) (options : Options)
    (state : RunState) (registry : Registry) :
    let s : Session := { frontend := recorded.frontend, options, state, registry }
    (∀ request, s.frontend.HasRequest request → (s.ask request).1 ≠ .error .outsideTable) ∧
    (∀ c, s.frontend.HasCursor c → s.frontend.templateAround c ≠ .error .outsideTable ∧
      s.registerTree c ≠ .error .outsideTable) ∧
    (∀ spelling name tail, splitName spelling = some (name, tail) →
      (withoutClosing spelling).map (dropBytes? (byteLength name + 1)) =
        (withoutClosing tail).map some) ∧
    (∀ body, Spelling.cutArguments? body = some (Spelling.arguments body)) ∧
    (∀ spelling, Spelling.cutScope? spelling = some (Spelling.unscoped spelling)) ∧
    ∀ c text, Token.extent c text ≤ text.length := by
  intro s
  have admits : s.frontend.Admits (· ≠ .outsideTable) :=
    Frontend.admits_of_closed (Snapshot.frontend_closed closed)
  refine ⟨fun request known stopped => ?_, fun c known => ⟨fun stopped => ?_, fun stopped => ?_⟩,
    fun spelling name tail => dropBytes?_withoutClosing, Spelling.cutArguments?_eq,
    Spelling.cutScope?_eq, Token.extent_le⟩
  · exact ask_stopsBy admits (.inr known) stopped rfl
  · exact admits.templateAround_stopsBy (.inr known) _ stopped rfl
  · exact registerTree_stopsBy admits (.inr known) _ stopped rfl

/-- A variable of a type that is spelled beyond ASCII. -/
def umlauts : Snapshot where
  cursors := #[
    { kind := .classTemplate, spelling := "Größe", entity := ⟨"Größe"⟩ },
    { kind := .varDecl, spelling := "größe", entity := ⟨"größe"⟩, type := some (.afterCount 0) }]
  types := #[
    { kind := .elaborated, spelling := "const Größe<π> ", declaration := some (.afterCount 0) }]

theorem stays_inside_umlauts :
    let s := start umlauts.frontend {}
    let request := .type ⟨.afterCount 1, .afterCount 0⟩
    let spelling := "Größe<π> ".toList
    umlauts.Closed ∧ s.frontend.HasRequest request ∧
      splitName spelling = some ("Größe".toList, "π> ".toList) ∧
      (s.ask request).1 ≠ .error .outsideTable ∧
      (withoutClosing spelling).map (dropBytes? (byteLength "Größe".toList + 1)) =
        some (some "π".toList) := by
  intro s request spelling
  have closed : umlauts.Closed := by decide
  have known : s.frontend.HasRequest request := ⟨⟨_, rfl⟩, ⟨_, rfl⟩⟩
  have split : splitName spelling = some ("Größe".toList, "π> ".toList) := rfl
  obtain ⟨asked, _, cut, _⟩ := stays_inside closed {} {} {}
  exact ⟨closed, known, split, asked request known, cut _ _ _ split⟩

end Session
end CxxTrees
