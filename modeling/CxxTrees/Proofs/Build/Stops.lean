import CxxTrees.Proofs.Build.Complete
import CxxTrees.Proofs.Build.Lookups

/-!
# Stops of builds

Building a type goes inwards, and looks only at handles that it reaches along links.
So it stops by a fault, at a link that leaves the tables, or where the links run in a
circle, and for no other reason: `Admits.typeAt_stopsBy`.
-/

namespace CxxTrees
open Handle
variable {P : Stop → Prop}

/-- A builder that stops by `P` at the types inside of `t`, and builds every valid type of a
complete frontend. -/
structure Builder.StopsBelow (sub : Builder) (fe : Frontend) (P : Stop → Prop) (t : TypeHandle) :
    Prop where
  node : ∀ site, fe.Inside P site.cursor → Relation.TransGen fe.Inner t site.type →
    (sub.node site).StopsBy P
  instantiation : ∀ site, fe.Inside P site.cursor → Relation.TransGen fe.Inner t site.type →
    (sub.instantiation site).StopsBy P
  node_ne_none : fe.Complete → ∀ site, fe.IsValid site.type → (sub.node site).outcome ≠ .ok none

namespace Frontend
variable {fe : Frontend} {sub : Builder} {site : Site} {t u : TypeHandle} {template : Cursor}
  {facts : TypeFacts}

theorem stopsBelow_inner (stops : sub.StopsBelow fe P t) (path : Relation.TransGen fe.Inner t u) :
    sub.StopsBelow fe P u :=
  ⟨fun site inside rest => stops.node site inside (path.trans rest),
    fun site inside rest => stops.instantiation site inside (path.trans rest), stops.node_ne_none⟩

theorem inner_of_part (known : fe.type? t = some facts) (part : facts.HasPart u) :
    Relation.TransGen fe.Inner t u := .single ⟨facts, known, .inl part⟩

/-- The element of an array is one of its parts, or one of its canonical form. -/
theorem inner_of_elementAt {e : TypeHandle} (h : fe.elementAt t = .ok (some e)) :
    Relation.TransGen fe.Inner t e := by
  obtain ⟨facts, looked, h⟩ := except_bind_ok h
  have known := type_ok looked
  obtain ⟨element, valid, h⟩ := except_bind_ok h
  cases element with
  | some element =>
    obtain rfl := Option.some.inj (except_pure_ok h)
    exact inner_of_part known (.element (valid_ok valid))
  | none =>
    obtain ⟨facts', looked', h⟩ := except_bind_ok h
    have part := inner_of_part (type_ok looked') (.element (valid_ok h))
    by_cases own : facts.canonical = t
    · rwa [own] at part
    · exact .head ⟨facts, known, .inr ⟨rfl, own⟩⟩ part

/-! ### Faults of a spelling -/

theorem boundOf_error {spelling : List Char} {fault : Fault}
    (h : Spelling.boundOf spelling = .error fault) : fault.OfReading := by
  unfold Spelling.boundOf at h
  split at h
  · cases h
  · cases h
    exact .malformed _ _

theorem decltypeOperand?_error {name : List Char} {fault : Fault}
    (h : decltypeOperand? name = .error fault) : fault.OfReading := by
  unfold decltypeOperand? at h
  split at h
  · cases h
  · dsimp only at h
    split at h
    · cases h
    · cases h
      exact .malformed _ _

namespace AdmitsFaults
variable (admits : fe.AdmitsNode P)
include admits

theorem inner (path : Relation.TransGen fe.Inner t u) : fe.InsideType P u := by
  have last {t : TypeHandle} (link : fe.Inner t u) : fe.InsideType P u := by
    obtain ⟨facts, known, part | ⟨rfl, _⟩⟩ := link
    · exact admits.part known part
    · exact admits.canonical known
  cases path with
  | single link => exact last link
  | tail _ link => exact last link

/-! ### Instantiations -/

omit admits in
theorem argumentAt_stopsBy (stops : sub.StopsBelow fe P t) (around : fe.Inside P template)
    (type : fe.InsideType P t) (index : Nat) (text : List Char) :
    (fe.argumentAt sub template t index text).StopsBy P := by
  refine Build.stopsBy_look (type_stopsBy type) fun facts looked => ?_
  split
  · exact Build.stopsBy_return (Build.stopsBy_pure _)
  · rename_i argument link
    have path := inner_of_part (type_ok looked) (.argument index link)
    refine Build.stopsBy_bind (stops.instantiation _ around path) fun read _ => ?_
    cases read with
    | some t => exact Build.stopsBy_return (Build.stopsBy_pure _)
    | none => exact Build.stopsBy_return (stops.node _ around path)

omit admits in
theorem argumentsFrom_stopsBy (stops : sub.StopsBelow fe P t) (around : fe.Inside P template)
    (type : fe.InsideType P t) (index : Nat) (texts : List (List Char)) :
    (fe.argumentsFrom sub template t index texts).StopsBy P := by
  induction texts generalizing index with
  | nil => exact Build.stopsBy_pure _
  | cons text texts ih =>
    refine Build.stopsBy_bind (argumentAt_stopsBy stops around type index text) ?_
    exact fun argument _ => Build.stopsBy_return (ih _)

theorem instantiationAt_stopsBy (stops : sub.StopsBelow fe P site.type)
    (inside : fe.InsideSite P site) : (fe.instantiationAt sub site).StopsBy P := by
  refine Build.stopsBy_look (admits.leafAt_stopsBy inside) fun leaf _ => ?_
  split
  split
  · rename_i name tail _
    refine Build.stopsBy_look (admits.templateAt_stopsBy inside name) fun found looked => ?_
    split
    · rename_i template
      have template' : fe.Inside P template := admits.templateAt_inside looked
      split
      · refine Build.stopsBy_look (type_stopsBy inside.type) fun facts _ => ?_
        have named (arguments : Arguments) (cv : Cv) : Build.StopsBy P (do
            let declaration : DeclRef := ⟨(← fe.cursor template).entity, String.ofList name⟩
            return some ((Ty.ofNode (.instantiation declaration arguments)).qualify cv)) :=
          Build.stopsBy_return (Build.stopsBy_lift (cursor_stopsBy template'))
        split
        · have built := argumentsFrom_stopsBy stops template' inside.type 0
          refine Build.stopsBy_bind (built _) fun list _ => ?_
          exact Build.stopsBy_bind (Build.stopsBy_pure _) fun arguments _ => named arguments _
        · exact Build.stopsBy_bind (Build.stopsBy_pure _) fun arguments _ => named arguments _
      · exact Build.stopsBy_pure none
    · exact Build.stopsBy_pure none
  · exact Build.stopsBy_pure none

/-! ### Parts of a type -/

omit admits in
theorem rawSpelling_stopsBy (type : fe.InsideType P t) : StopsBy P (fe.rawSpelling t) :=
  stopsBy_return (type_stopsBy type)

/-- A part can only be missing where the frontend is not complete. -/
theorem fail_stopsBy {fault : Fault} (part : fault.OfParts) (incomplete : ¬ fe.Complete) :
    (Build.fail fault : Build α).StopsBy P :=
  Build.stopsBy_fail (admits.parts.elim (· part) fun complete => absurd complete incomplete)

omit admits in
theorem required_stopsBy (node : (sub.node site).StopsBy P) (type : fe.InsideType P site.type)
    (invalid : (sub.node site).outcome = .ok none → ∀ spelling, P (.fault (.invalidType spelling))) :
    (fe.required sub site).StopsBy P := by
  refine Build.stopsBy_bind node fun built h => ?_
  cases built with
  | some t => exact Build.stopsBy_pure t
  | none =>
    refine Build.stopsBy_look (rawSpelling_stopsBy type) fun spelling _ => ?_
    exact Build.stopsBy_fail (invalid h spelling)

theorem part_stopsBy (stops : sub.StopsBelow fe P t) (inside : fe.Inside P site.cursor)
    (path : Relation.TransGen fe.Inner t site.type)
    (valid : fe.Complete → fe.IsValid site.type) : (fe.required sub site).StopsBy P := by
  refine required_stopsBy (stops.node site inside path) (admits.inner path) fun none spelling => ?_
  rcases admits.parts with all | complete
  · exact all (.type spelling)
  · exact absurd none (stops.node_ne_none complete site (valid complete))

theorem pointeeAt_stopsBy (stops : sub.StopsBelow fe P site.type)
    (inside : fe.InsideSite P site) (known : fe.type? site.type = some facts)
    (kind : facts.kind.pointsTo = true) : (fe.pointeeAt sub site).StopsBy P := by
  refine Build.stopsBy_look (type_stopsBy inside.type) fun facts' looked => ?_
  obtain rfl := Option.mem_unique known (type_ok looked)
  refine Build.stopsBy_look (admits.valid_stopsBy known fun _ => .pointee) fun pointee found => ?_
  cases pointee with
  | some pointee =>
    exact admits.part_stopsBy stops inside.cursor
      (inner_of_part known (.pointee (valid_ok found))) fun _ => isValid_of_valid found
  | none =>
    refine admits.fail_stopsBy (.type _) fun complete => ?_
    have valid : fe.IsValid site.type := isValid_of_known known fun invalid => by
      rw [invalid] at kind
      cases kind
    exact complete.valid_ne_none known valid (complete.pointee known kind) (fun _ => .pointee) found

theorem parametersFrom_stopsBy (stops : sub.StopsBelow fe P site.type)
    (inside : fe.Inside P site.cursor) (known : fe.type? site.type = some facts)
    (valid : fe.IsValid site.type) {index count : Nat}
    (listed : fe.Complete → ∀ i < index + count, facts.parameter i ≠ none) :
    (fe.parametersFrom sub site facts index count).StopsBy P := by
  induction count generalizing index with
  | zero => exact Build.stopsBy_pure _
  | succ count ih =>
    unfold parametersFrom
    split
    · rename_i absent
      exact admits.fail_stopsBy (.parameter _ _) fun complete =>
        listed complete index (by omega) absent
    · rename_i parameter link
      have path := inner_of_part known (.parameter index link)
      have part : (fe.required sub { site with type := parameter }).StopsBy P :=
        admits.part_stopsBy stops inside path fun complete =>
          complete.needed known valid (.parameter index link)
      refine Build.stopsBy_bind part fun t _ => ?_
      exact Build.stopsBy_return (ih fun complete i bound => listed complete i (by omega))

theorem parametersAt_stopsBy (stops : sub.StopsBelow fe P site.type)
    (inside : fe.InsideSite P site) (valid : fe.IsValid site.type)
    (known : fe.type? site.type = some facts) (result : facts.result ≠ none) :
    (fe.parametersAt sub site).StopsBy P := by
  refine Build.stopsBy_look (type_stopsBy inside.type) fun facts' looked => ?_
  obtain rfl := Option.mem_unique known (type_ok looked)
  split
  · rename_i unlisted
    refine admits.fail_stopsBy (.parameter _ _) fun complete => ?_
    obtain ⟨count, listed, _⟩ := complete.parameters known result
    cases unlisted.symm.trans listed
  · rename_i count listed
    refine Build.stopsBy_return (admits.parametersFrom_stopsBy stops inside.cursor known valid ?_)
    intro complete i bound
    obtain ⟨count', listed', each⟩ := complete.parameters known result
    obtain rfl := Option.some.inj (listed.symm.trans listed')
    exact each i (by omega)

theorem sizeAt_stopsBy (inside : fe.InsideSite P site) : StopsBy P (fe.sizeAt site) := by
  refine stopsBy_bind (type_stopsBy inside.type) fun facts _ => ?_
  split
  · exact stopsBy_pure _
  · refine stopsBy_bind (admits.spellingAt_stopsBy inside) fun spelling _ => ?_
    split
    · rename_i fault malformed
      exact stopsBy_error (admits.spelling (boundOf_error malformed))
    · exact stopsBy_pure none
    · exact stopsBy_pure _

theorem elementAt_stopsBy (type : fe.InsideType P t) : StopsBy P (fe.elementAt t) := by
  refine stopsBy_bind (type_stopsBy type) fun facts looked => ?_
  have known := type_ok looked
  refine stopsBy_bind (admits.valid_stopsBy known fun _ => .element) fun found _ => ?_
  cases found with
  | some e => exact stopsBy_pure _
  | none =>
    refine stopsBy_bind (type_stopsBy (admits.canonical known)) fun facts' looked' => ?_
    exact admits.valid_stopsBy (type_ok looked') fun _ => .element

/-! ### Readings of a type -/

theorem userDefinedAt_stopsBy (inside : fe.InsideSite P site) :
    StopsBy P (fe.userDefinedAt site) := by
  refine stopsBy_bind (admits.leafAt_stopsBy inside) fun leaf _ => ?_
  refine stopsBy_bind (type_stopsBy inside.type) fun facts looked => ?_
  split
  · exact stopsBy_return (admits.spellingAt_stopsBy inside)
  · rename_i declaration link
    have declared : fe.Inside P declaration := admits.declaration (type_ok looked) link
    exact stopsBy_return (cursor_stopsBy declared)

theorem functionAt_stopsBy (stops : sub.StopsBelow fe P site.type)
    (inside : fe.InsideSite P site) (valid : fe.IsValid site.type) :
    (fe.functionAt sub site).StopsBy P := by
  refine Build.stopsBy_look (type_stopsBy inside.type) fun facts looked => ?_
  have known := type_ok looked
  refine Build.stopsBy_look (admits.valid_stopsBy known fun _ => .result) fun result found => ?_
  cases result with
  | none => exact Build.stopsBy_pure none
  | some result =>
    have link := valid_ok found
    have returned : (fe.required sub { site with type := result }).StopsBy P :=
      admits.part_stopsBy stops inside.cursor (inner_of_part known (.result link)) fun _ =>
        isValid_of_valid found
    refine Build.stopsBy_bind returned fun t _ => ?_
    exact Build.stopsBy_return
      (admits.parametersAt_stopsBy stops inside valid known (by simp [link]))

theorem arrayAt_stopsBy (stops : sub.StopsBelow fe P site.type)
    (inside : fe.InsideSite P site) : (fe.arrayAt sub site).StopsBy P := by
  refine Build.stopsBy_look (admits.elementAt_stopsBy inside.type) fun found looked => ?_
  cases found with
  | none => exact Build.stopsBy_pure none
  | some element =>
    refine Build.stopsBy_look (type_stopsBy inside.type) fun facts looked' => ?_
    have size : StopsBy P (fe.sizeAt { site with type := facts.canonical }) :=
      admits.sizeAt_stopsBy ⟨inside.cursor, admits.canonical (type_ok looked')⟩
    refine Build.stopsBy_look size fun _ _ => ?_
    have path := inner_of_elementAt looked
    exact Build.stopsBy_return (admits.part_stopsBy stops inside.cursor path fun _ =>
      isValid_of_elementAt looked)

theorem decltypeAt_stopsBy (inside : fe.InsideSite P site) : StopsBy P (fe.decltypeAt site) := by
  refine stopsBy_bind (cursor_stopsBy inside.cursor) fun facts _ => ?_
  split
  · exact stopsBy_pure none
  · refine stopsBy_bind (admits.leafAt_stopsBy inside) fun leaf _ => ?_
    split
    split
    · rename_i fault malformed
      exact stopsBy_error (admits.spelling (decltypeOperand?_error malformed))
    · exact stopsBy_pure none
    · exact stopsBy_pure _

omit admits in
theorem firstReading_stopsBy {note : String → Build Unit}
    (noted : ∀ name, (note name).StopsBy P) {readings : List (Reading Build Site Ty)}
    (each : ∀ reading ∈ readings, (reading.run site).StopsBy P) :
    (firstReading note site readings).StopsBy P := by
  induction readings with
  | nil => exact Build.stopsBy_pure none
  | cons reading readings ih =>
    refine Build.stopsBy_bind (each reading List.mem_cons_self) fun answer _ => ?_
    cases answer with
    | some t => exact Build.stopsBy_return (noted reading.name)
    | none => exact ih fun later member => each later (List.mem_cons_of_mem reading member)

theorem unexposedAt_stopsBy (stops : sub.StopsBelow fe P site.type)
    (inside : fe.InsideSite P site) (valid : fe.IsValid site.type) :
    (fe.unexposedAt sub site).StopsBy P := by
  have read : (firstReading (fun name => Build.emit (.reading name)) site
      (fe.readings sub)).StopsBy P := by
    refine firstReading_stopsBy (fun _ => Build.stopsBy_emit _) fun reading member => ?_
    simp only [readings, List.mem_cons, List.not_mem_nil, or_false] at member
    rcases member with rfl | rfl | rfl | rfl | rfl
    · exact admits.functionAt_stopsBy stops inside valid
    · exact admits.arrayAt_stopsBy stops inside
    · exact Build.stopsBy_lift (admits.decltypeAt_stopsBy inside)
    · exact admits.instantiationAt_stopsBy stops inside
    · exact Build.stopsBy_lift (admits.parameterAt_stopsBy inside)
  refine Build.stopsBy_bind read fun answer _ => ?_
  cases answer with
  | some t => exact Build.stopsBy_pure t
  | none =>
    exact Build.stopsBy_return (Build.stopsBy_lift (admits.spellingAt_stopsBy inside))

theorem memberAt_stopsBy (stops : sub.StopsBelow fe P site.type)
    (inside : fe.InsideSite P site) (known : fe.type? site.type = some facts)
    (kind : facts.kind = .memberPointer) : (fe.memberAt sub site).StopsBy P := by
  refine Build.stopsBy_look (admits.spellingAt_stopsBy inside) fun spelling _ => ?_
  refine Build.stopsBy_look (type_stopsBy inside.type) fun facts' looked => ?_
  obtain rfl := Option.mem_unique known (type_ok looked)
  have valid : fe.IsValid site.type := isValid_of_known known (by rw [kind]; exact nofun)
  refine Build.stopsBy_look (admits.valid_stopsBy known fun _ => .ofClass) fun ofClass found => ?_
  cases ofClass with
  | none =>
    exact admits.fail_stopsBy (.type _) fun complete =>
      complete.valid_ne_none known valid (complete.ofClass known kind) (fun _ => .ofClass) found
  | some ofClass =>
    have class' : (fe.required sub { site with type := ofClass }).StopsBy P :=
      admits.part_stopsBy stops inside.cursor (inner_of_part known (.ofClass (valid_ok found)))
        fun _ => isValid_of_valid found
    refine Build.stopsBy_bind class' fun t _ => ?_
    refine Build.stopsBy_look (admits.valid_stopsBy known fun _ => .pointee) fun pointee found => ?_
    cases pointee with
    | none =>
      refine admits.fail_stopsBy (.type _) fun complete => ?_
      have some_ : facts.pointee ≠ none := complete.pointee known (by rw [kind]; rfl)
      exact complete.valid_ne_none known valid some_ (fun _ => .pointee) found
    | some pointee =>
      have path := inner_of_part known (.pointee (valid_ok found))
      have pointee' : fe.InsideType P pointee := admits.inner path
      refine Build.stopsBy_look (type_stopsBy pointee') fun facts' looked' => ?_
      have known' := type_ok looked'
      have returns : StopsBy P (fe.valid facts'.result) :=
        admits.valid_stopsBy known' fun _ => .result
      refine Build.stopsBy_look returns fun result found' => ?_
      cases result with
      | none =>
        exact Build.stopsBy_return (admits.part_stopsBy stops inside.cursor path fun _ =>
          isValid_of_valid found)
      | some result =>
        have link := valid_ok found'
        have inner := path.trans (inner_of_part known' (.result link))
        have returned : (fe.required sub { site with type := result }).StopsBy P :=
          admits.part_stopsBy stops inside.cursor inner fun _ => isValid_of_valid found'
        refine Build.stopsBy_bind returned fun t _ => ?_
        have parameters : (fe.parametersAt sub { site with type := pointee }).StopsBy P :=
          admits.parametersAt_stopsBy (stopsBelow_inner stops path) ⟨inside.cursor, pointee'⟩
            (isValid_of_valid found) known' (by simp [link])
        exact Build.stopsBy_return parameters

omit admits in
theorem warnUnmodelled_stopsBy (inside : fe.Inside P site.cursor) (kind : TypeKind) :
    (fe.warnUnmodelled site kind : Build Unit).StopsBy P :=
  Build.stopsBy_look (cursor_stopsBy inside) fun _ _ => Build.stopsBy_emit _

/-! ### Whole types -/

theorem nodeAt_stopsBy (stops : sub.StopsBelow fe P site.type) (inside : fe.InsideSite P site) :
    (fe.nodeAt sub site).StopsBy P := by
  have leaf := admits.leafAt_stopsBy inside
  have spelling := admits.spellingAt_stopsBy inside
  have declared := admits.userDefinedAt_stopsBy inside
  refine Build.stopsBy_look (type_stopsBy inside.type) fun facts looked => ?_
  have known := type_ok looked
  have valid {kind : TypeKind} (same : facts.kind = kind) (valid : kind ≠ .invalid) :
      fe.IsValid site.type := isValid_of_known known (same ▸ valid)
  split
  · exact Build.stopsBy_return (Build.stopsBy_lift leaf)
  · split
    case h_1 => exact Build.stopsBy_pure none
    case h_2 kind | h_3 kind =>
      exact Build.stopsBy_return (admits.unexposedAt_stopsBy stops inside (valid kind nofun))
    case h_4 =>
      refine Build.stopsBy_bind (admits.instantiationAt_stopsBy stops inside) fun read _ => ?_
      cases read with
      | some t => exact Build.stopsBy_pure _
      | none => exact Build.stopsBy_return (Build.stopsBy_lift declared)
    case h_5 | h_6 | h_7 => exact Build.stopsBy_return (Build.stopsBy_lift declared)
    case h_8 kind =>
      have points : facts.kind.pointsTo = true := by rw [kind]; rfl
      have pointee := admits.pointeeAt_stopsBy stops inside known points
      refine Build.stopsBy_bind pointee fun pointee _ => ?_
      exact Build.stopsBy_return (Build.stopsBy_lift spelling)
    case h_9 kind | h_10 kind =>
      have points : facts.kind.pointsTo = true := by rw [kind]; rfl
      exact Build.stopsBy_return (admits.pointeeAt_stopsBy stops inside known points)
    case h_11 | h_12 | h_13 | h_14 => exact admits.arrayAt_stopsBy stops inside
    case h_15 kind | h_16 kind =>
      have function : facts.kind.isFunction = true := by rw [kind]; rfl
      have built := admits.functionAt_stopsBy stops inside (valid kind nofun)
      refine Build.stopsBy_bind built fun read absent => ?_
      cases read with
      | some t => exact Build.stopsBy_pure _
      | none =>
        exact admits.fail_stopsBy (.result _) fun complete =>
          complete.functionAt_ne_none known function absent
    case h_17 kind =>
      exact Build.stopsBy_return (admits.memberAt_stopsBy stops inside known kind)
    case h_18 =>
      refine Build.stopsBy_look (type_stopsBy (admits.canonical known)) fun facts' _ => ?_
      split
      · exact Build.stopsBy_return (Build.stopsBy_lift leaf)
      · rename_i other
        have other : facts.canonical ≠ site.type := fun same => other (.inl same)
        exact stops.node _ inside.cursor (.single ⟨facts, known, .inr ⟨rfl, other⟩⟩)
    case h_19 kind | h_20 kind | h_21 kind | h_22 kind | h_23 kind =>
      refine Build.stopsBy_bind (warnUnmodelled_stopsBy inside.cursor _) fun _ _ => ?_
      exact Build.stopsBy_return (admits.unexposedAt_stopsBy stops inside (valid kind nofun))
    case h_24 => exact Build.stopsBy_return (Build.stopsBy_lift spelling)

theorem builder_stopsBy {depth : Nat} (inside : fe.InsideSite P site)
    (enough : Enough P fe.Inner fe.typeCount depth site.type) :
    ((fe.builder depth).node site).StopsBy P ∧
      ((fe.builder depth).instantiation site).StopsBy P := by
  induction depth generalizing site with
  | zero =>
    have admitted : P .endless := not_enough_zero enough
    exact ⟨stopsBy_error admitted, stopsBy_error admitted⟩
  | succ depth ih =>
    have below (site' : Site) (inside' : fe.Inside P site'.cursor)
        (path : Relation.TransGen fe.Inner site.type site'.type) :
        ((fe.builder depth).node site').StopsBy P ∧
          ((fe.builder depth).instantiation site').StopsBy P := by
      obtain ⟨_, ⟨facts, known, _⟩, _⟩ := Relation.TransGen.head'_iff.mp path
      refine ih ⟨inside', admits.inner path⟩ ?_
      exact enough_along (admits.endless.imp_right Acyclic.inner)
        (index_lt_of_hasType ⟨facts, known⟩) path enough
    have stops : (fe.builder depth).StopsBelow fe P site.type :=
      ⟨fun site' inside' path => (below site' inside' path).1,
        fun site' inside' path => (below site' inside' path).2,
        fun complete _ => complete.builder_ne_none⟩
    exact ⟨admits.nodeAt_stopsBy stops inside, admits.instantiationAt_stopsBy stops inside⟩

theorem typeBuilder_stopsBy (inside : fe.InsideSite P site) :
    (fe.typeBuilder.node site).StopsBy P ∧ (fe.typeBuilder.instantiation site).StopsBy P := by
  refine admits.builder_stopsBy inside (enough_count _ ?_)
  have most : 4 * (fe.typeCount + 1) * 1 ≤ fe.typeLimit :=
    Nat.mul_le_mul_left _ (Nat.le_add_left 1 _)
  omega

theorem canonicalAt_stopsBy (inside : fe.InsideSite P site) (valid : fe.IsValid site.type)
    (declared : Ty) : (fe.canonicalAt site declared).StopsBy P := by
  refine Build.stopsBy_look (type_stopsBy inside.type) fun facts looked => ?_
  have known := type_ok looked
  have inside' : fe.InsideSite P { site with type := facts.canonical } :=
    ⟨inside.cursor, admits.canonical known⟩
  obtain ⟨node, instantiation⟩ := admits.typeBuilder_stopsBy inside'
  have required : (fe.required fe.typeBuilder { site with type := facts.canonical }).StopsBy P := by
    refine required_stopsBy node inside'.type fun none spelling => ?_
    rcases admits.parts with all | complete
    · exact all (.type spelling)
    · exact absurd none (complete.builder_ne_none (complete.needed known valid (.canonical rfl)))
  dsimp only
  split
  · exact Build.stopsBy_pure declared
  · split
    case h_1 | h_2 =>
      refine Build.stopsBy_bind instantiation fun read _ => ?_
      cases read with
      | some t => exact Build.stopsBy_pure t
      | none => exact required
    case h_3 => exact required

omit admits in
theorem node (admits : fe.AdmitsBuild P) : fe.AdmitsNode P :=
  ⟨fun reading => admits.spelling reading.ofSpelling, admits.parts, admits.outside, admits.endless⟩

omit admits in
/-- The canonical form is only set where there is none. -/
theorem typeAt_stopsBy (admits : fe.AdmitsBuild P) (inside : fe.InsideSite P site)
    (valid : (∀ spelling, P (.fault (.invalidType spelling))) ∨
      fe.Complete ∧ fe.IsValid site.type) : (fe.typeAt site).StopsBy P := by
  have required : (fe.required fe.typeBuilder site).StopsBy P := by
    refine required_stopsBy (admits.node.typeBuilder_stopsBy inside).1 inside.type fun none => ?_
    exact valid.resolve_right fun ⟨complete, valid⟩ => complete.builder_ne_none valid none
  refine Build.stopsBy_bind required fun declared built => ?_
  have valid : fe.IsValid site.type := isValid_of_builder (required_ok built)
  split
  · exact Build.stopsBy_pure _
  · rename_i unset
    refine Build.stopsBy_bind (admits.node.canonicalAt_stopsBy inside valid declared) ?_
    intro form _
    split
    · refine Build.stopsBy_look (rawSpelling_stopsBy inside.type) fun spelling _ => ?_
      exact Build.stopsBy_fail (admits.spelling (.canonical _ _))
    · rw [Ty.withCanonical_ok (by simpa using unset)]
      exact Build.stopsBy_pure _

end AdmitsFaults

end Frontend

end CxxTrees
