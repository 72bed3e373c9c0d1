import CxxTrees.Build.Instantiation
import CxxTrees.Proofs.Build.Complete
import CxxTrees.Proofs.Build.Parameters
import CxxTrees.Proofs.Frontend.Descents

/-!
# Stops of look-ups at a site

How a type is spelled, which template parameter its name is and which template it is
an instance of: each look-up follows links from the site and stops where they do.
-/

namespace CxxTrees.Frontend
open Handle
variable {P : Stop → Prop}

/-- A look-up of what the site consists of stops only by `P`. -/
structure InsideSite (fe : Frontend) (P : Stop → Prop) (site : Site) : Prop where
  cursor : fe.Inside P site.cursor
  type : fe.InsideType P site.type

variable {fe : Frontend} {site : Site} {t : TypeHandle} {template : Cursor}

namespace AdmitsFaults
variable (admits : fe.AdmitsNode P)
include admits

/-! ### Spellings -/

theorem isLocalTypedef_stopsBy (inside : fe.InsideSite P site) :
    StopsBy P (fe.isLocalTypedef site) := by
  refine stopsBy_bind (type_stopsBy inside.type) fun facts looked => ?_
  split
  · exact stopsBy_pure false
  · split
    · exact stopsBy_pure false
    · rename_i declaration link
      have declared : fe.Inside P declaration := admits.declaration (type_ok looked) link
      refine stopsBy_bind (cursor_stopsBy declared) fun _ _ => ?_
      exact stopsBy_return (cursor_stopsBy inside.cursor)

theorem spellingAt_stopsBy (inside : fe.InsideSite P site) : StopsBy P (fe.spellingAt site) := by
  refine stopsBy_bind (type_stopsBy inside.type) fun facts _ => ?_
  exact stopsBy_return (admits.isLocalTypedef_stopsBy inside)

theorem leafAt_stopsBy (inside : fe.InsideSite P site) : StopsBy P (fe.leafAt site) :=
  stopsBy_return (admits.spellingAt_stopsBy inside)

theorem valid_stopsBy {facts : TypeFacts} (known : fe.type? t = some facts)
    {o : Option TypeHandle} (part : ∀ u, o = some u → facts.HasPart u) :
    StopsBy P (fe.valid o) := by
  cases o with
  | none => exact stopsBy_pure none
  | some u =>
    have inside : fe.InsideType P u := admits.part known (part u rfl)
    exact stopsBy_return (type_stopsBy inside)

/-! ### Template parameters -/

theorem parameterName_stopsBy {c : Cursor} (inside : fe.Inside P c) :
    StopsBy P (fe.parameterName c) := by
  refine stopsBy_bind (cursor_stopsBy inside) fun facts looked => ?_
  split
  · rename_i type link
    exact admits.spellingAt_stopsBy ⟨inside, admits.typed (cursor_ok looked) link⟩
  · exact stopsBy_pure _

theorem typeParameter_stopsBy (around : fe.Inside P template) (name : List Char) :
    StopsBy P (fe.typeParameter template name) := by
  refine onlyChild_stopsBy (cursor_stopsBy around) (fun facts known child member => ?_)
    fun text => admits.spelling (.parameter _ text)
  have child' : fe.Inside P child := admits.named known (.child member)
  refine stopsBy_bind (cursor_stopsBy child') fun declared _ => ?_
  split
  · exact stopsBy_pure false
  · exact stopsBy_return (admits.parameterName_stopsBy child')

theorem parameterOf_stopsBy (inside : fe.InsideSite P site) (around : fe.Inside P template) :
    StopsBy P (fe.parameterOf site template) := by
  refine stopsBy_bind (admits.leafAt_stopsBy inside) fun leaf _ => ?_
  refine stopsBy_bind (admits.typeParameter_stopsBy around leaf.2) fun found searched => ?_
  cases found with
  | none => exact stopsBy_pure none
  | some parameter =>
    obtain ⟨facts, known, member⟩ := onlyChild_ok searched
    exact stopsBy_return (cursor_stopsBy (admits.named known (.child member)))

theorem parameterWithin_stopsBy {scope : Cursor} {limit : Nat} (inside : fe.Inside P scope)
    (type : fe.InsideType P t) (enough : Enough P fe.Parent fe.cursorCount limit scope) :
    StopsBy P (fe.parameterWithin t limit scope) := by
  induction limit generalizing scope with
  | zero => exact stopsBy_error (not_enough_zero enough)
  | succ limit ih =>
    refine stopsBy_bind (admits.templateAround_stopsBy inside) fun around climbed => ?_
    cases around with
    | none => exact stopsBy_pure none
    | some template =>
      obtain ⟨path, known⟩ := templateAroundWithin_path climbed
      have template' : fe.Inside P template := .inr known
      refine stopsBy_bind (admits.parameterOf_stopsBy ⟨inside, type⟩ template') fun found _ => ?_
      cases found with
      | some parameter => exact stopsBy_pure _
      | none =>
        refine stopsBy_bind (cursor_stopsBy template') fun facts looked => ?_
        have known := cursor_ok looked
        split
        · exact stopsBy_pure none
        · rename_i parent link
          refine ih (admits.named known (.parent link)) ?_
          refine admits.enough_parent (enough_before path enough) ?_ ⟨facts, known⟩
          exact .single ⟨facts, known, link⟩

theorem parameterAt_stopsBy (inside : fe.InsideSite P site) : StopsBy P (fe.parameterAt site) :=
  admits.parameterWithin_stopsBy inside.cursor inside.type
    (enough_count _ (Nat.lt_succ_self _))

/-! ### Templates -/

theorem templateOfDeclaration_stopsBy {c : Cursor} (inside : fe.Inside P c) :
    StopsBy P (fe.templateOfDeclaration c) := by
  refine stopsBy_bind (cursor_stopsBy inside) fun facts looked => ?_
  dsimp only
  split
  · exact stopsBy_return (stopsBy_pure 0)
  · rename_i type link
    have typed : fe.InsideType P type := admits.typed (cursor_ok looked) link
    refine stopsBy_bind (type_stopsBy typed) fun _ _ => ?_
    exact stopsBy_return (stopsBy_pure _)

/-- The template of a declaration is the one it names as such, or the declaration. -/
theorem templateOfDeclaration_inside {c : Cursor} (inside : fe.Inside P c)
    (h : fe.templateOfDeclaration c = .ok (some template)) : fe.Inside P template := by
  obtain ⟨facts, looked, h⟩ := except_bind_ok h
  have chosen (count : Nat) (same : (if count > 0 ∨ facts.kind.isDirectlyTemplated then
      some (facts.specializedTemplate.getD c) else none) = some template) :
      fe.Inside P template := by
    split at same
    · obtain rfl := Option.some.inj same
      cases link : facts.specializedTemplate with
      | none => exact inside
      | some primary => exact admits.named (cursor_ok looked) (.template link)
    · cases same
  dsimp only at h
  split at h
  · obtain ⟨count, _, h⟩ := except_bind_ok h
    exact chosen count (except_pure_ok h)
  · obtain ⟨facts', _, h⟩ := except_bind_ok h
    obtain ⟨count, _, h⟩ := except_bind_ok h
    exact chosen count (except_pure_ok h)

theorem templateParameter_stopsBy {scope : Cursor} (around : fe.Inside P scope)
    (name : List Char) : StopsBy P (fe.templateParameter scope name) := by
  refine onlyChild_stopsBy (cursor_stopsBy around) (fun facts known child member => ?_)
    fun text => admits.spelling (.template _ text)
  exact stopsBy_return (cursor_stopsBy (admits.named known (.child member)))

theorem templateAt_stopsBy (inside : fe.InsideSite P site) (name : List Char) :
    StopsBy P (fe.templateAt site name) := by
  refine stopsBy_bind (type_stopsBy inside.type) fun facts looked => ?_
  have searched := admits.templateParameter_stopsBy inside.cursor name
  dsimp only
  split
  · exact stopsBy_bind (stopsBy_pure none) fun declared same => except_pure_ok same ▸ searched
  · rename_i declaration link
    have declared : fe.Inside P declaration := admits.declaration (type_ok looked) link
    refine stopsBy_bind (admits.templateOfDeclaration_stopsBy declared) fun found _ => ?_
    cases found with
    | some template => exact stopsBy_pure _
    | none => exact searched

theorem templateAt_inside {name : List Char}
    (h : fe.templateAt site name = .ok (some template)) : fe.Inside P template := by
  obtain ⟨facts, looked, h⟩ := except_bind_ok h
  have searched (h : fe.templateParameter site.cursor name = .ok (some template)) :
      fe.Inside P template := by
    obtain ⟨facts', known, member⟩ := onlyChild_ok h
    exact admits.named known (.child member)
  dsimp only at h
  split at h
  · exact searched h
  · rename_i declaration link
    obtain ⟨found, declared, h⟩ := except_bind_ok h
    cases found with
    | some template' =>
      obtain rfl := Option.some.inj (except_pure_ok h)
      have inside := admits.declaration (type_ok looked) link
      exact admits.templateOfDeclaration_inside inside declared
    | none => exact searched h

end AdmitsFaults

end CxxTrees.Frontend
