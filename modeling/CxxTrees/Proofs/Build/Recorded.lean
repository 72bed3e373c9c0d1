import CxxTrees.Proofs.Build.Node
import CxxTrees.Proofs.Build.Parts
import CxxTrees.Proofs.Spelling.Bound
import CxxTrees.Proofs.Spelling.Written
import CxxTrees.Snapshot.Basic

/-!
# Recorded trees

A tree is recorded in a snapshot as one entry for each of its types, which is its
own canonical form and links to the entries of the types inside of it. What is
built from the entry of the root is the tree again.
-/

namespace CxxTrees

/-- How the size of an array is recorded: as a number, or in its text. -/
inductive Extent where
  | constant (count : UInt64) (spelling : String)
  | written (array : BoundsText)

namespace Extent

def count? : Extent → Option UInt64
  | constant count _ => some count
  | written _ => none

def spelling : Extent → String
  | constant _ spelling => spelling
  | written array => String.ofList array.text

/-- The size that a tree has of the array. -/
def size : Extent → Option Expr
  | constant count _ => some (.literal (.ofBuiltin .ulongLong) (toString count.toNat))
  | written array =>
    if array.first = [] then none
    else some (.unexposed (.ofBuiltin .ulongLong) (Token.ofText array.first))

end Extent

def RefKind.typeKind : RefKind → TypeKind
  | .lvalue => .lvalueReference
  | .rvalue => .rvalueReference

/-- A class with the qualifiers of its member function around it. -/
def MemberText.around (member : MemberText) (ofClass : Ty) : Ty :=
  match member.ref with
  | none => ofClass.wrapped member.cv.cv
  | some kind => .ofNode (.reference (ofClass.wrapped member.cv.cv) kind)

/-- The text of a pointer to a member object, which ends with its sign. -/
def MemberText.object (front : List Char) : MemberText where
  front := front
  sign := '*'
  pad := []
  cv := .none
  isSign := by decide
  blank := rfl
  refPad := []
  ref := none
  refBlank := rfl

theorem MemberText.spelling_object (front : List Char) :
    (object front).spelling = front ++ ['*'] := by
  simp [object, spelling, SignText.text, SignText.bare, CvText.behind, refBehind]

namespace Snapshot

def HasRecord (s : Snapshot) (h : TypeHandle) (r : TypeRecord) : Prop := s.types[h.index]? = some r

/-- The record of a function. Its parameters are given with their trees. -/
def functionRecord (result : TypeHandle) (parameters : List (TypeHandle × Ty)) (isVariadic : Bool)
    (spelling : String) : TypeRecord where
  kind := .functionProto
  spelling := spelling
  result := some result
  parameters := some (parameters.map Prod.fst)
  isVariadic := isVariadic

/-- The entry of a type, with those of the types inside of it, holds a tree. -/
inductive Recorded (s : Snapshot) : TypeHandle → Ty → Prop where
  | builtin {h : TypeHandle} {kind : TypeKind} {b : Builtin} (leaf : LeafText)
      (known : kind.builtin? = some b)
      (entry : s.HasRecord h { kind, spelling := String.ofList leaf.text }) :
      Recorded s h ((Ty.ofBuiltin b).wrapped leaf.cv)
  | named {h : TypeHandle} {kind : TypeKind} {d : Cursor} {facts : CursorFacts} (leaf : LeafText)
      (untagged : ∀ keyword ∈ Spelling.tagKeywords, ¬ Spelling.StartsWith keyword leaf.name)
      (declared : kind = .record ∨ kind = .enum) (declaration : s.cursors[d.index]? = some facts)
      (called : facts.spelling ≠ "")
      (entry : s.HasRecord h
        { kind, spelling := String.ofList leaf.text, declaration := some d }) :
      Recorded s h ((Ty.ofNode
        (.userDefined ⟨facts.entity, String.ofList leaf.name⟩)).wrapped leaf.cv)
  | pointer {h p : TypeHandle} {t : Ty} (pointer : SignText) (pointee : Recorded s p t)
      (entry : s.HasRecord h
        { kind := .pointer, spelling := String.ofList pointer.text, pointee := some p }) :
      Recorded s h ((Ty.ofNode (.pointer t)).wrapped pointer.cv.cv)
  | reference {h p : TypeHandle} {t : Ty} (ref : RefKind) (spelling : String)
      (referee : Recorded s p t)
      (entry : s.HasRecord h { kind := ref.typeKind, spelling, pointee := some p }) :
      Recorded s h (.ofNode (.reference t ref))
  | array {h e : TypeHandle} {t : Ty} {kind : TypeKind} (extent : Extent)
      (isArray : kind.isArray = true) (element : Recorded s e t)
      (entry : s.HasRecord h
        { kind, spelling := extent.spelling, element := some e, arraySize := extent.count? }) :
      Recorded s h (.ofNode (.array t extent.size))
  | function {h r : TypeHandle} {t : Ty} {parameters : List (TypeHandle × Ty)} (isVariadic : Bool)
      (spelling : String) (result : Recorded s r t)
      (each : ∀ p ∈ parameters, Recorded s p.1 p.2)
      (entry : s.HasRecord h (functionRecord r parameters isVariadic spelling)) :
      Recorded s h (.ofNode (.function t (parameters.map Prod.snd) isVariadic))
  | memberObject {h c v : TypeHandle} {t u : Ty} (front : List Char) (ofClass : Recorded s c t)
      (value : Recorded s v u) (object : u.nodeClass ≠ .function)
      (entry : s.HasRecord h
        { kind := .memberPointer, spelling := String.ofList (front ++ ['*']), ofClass := some c,
          pointee := some v }) :
      Recorded s h (.ofNode (.pointer (.ofNode (.memberObject t u))))
  | memberFunction {h c f r : TypeHandle} {t u : Ty} {parameters : List (TypeHandle × Ty)}
      (member : MemberText) (isVariadic : Bool) (spelling : String) (ofClass : Recorded s c t)
      (result : Recorded s r u) (each : ∀ p ∈ parameters, Recorded s p.1 p.2)
      (signature : s.HasRecord f (functionRecord r parameters isVariadic spelling))
      (entry : s.HasRecord h
        { kind := .memberPointer, spelling := String.ofList member.spelling, ofClass := some c,
          pointee := some f }) :
      Recorded s h (.ofNode (.pointer (.ofNode
        (.memberFunction (member.around t) u (parameters.map Prod.snd) isVariadic))))

open Frontend
variable {s : Snapshot} {h p : TypeHandle} {t : Ty} {r : TypeRecord} {sub : Builder} {c : Cursor}

/-! ### Entries -/

theorem type?_of_hasRecord (entry : s.HasRecord h r) : s.frontend.type? h = some (r.facts h) := by
  show (s.types[h.index]?).map (·.facts h) = _
  rw [entry]
  rfl

/-- The entry of a tree is valid and its own canonical form, and has a result only if the tree
is a function. -/
theorem hasRecord_of_recorded (recorded : s.Recorded h t) :
    ∃ r, s.HasRecord h r ∧ r.kind ≠ .invalid ∧ r.canonical = none ∧
      (t.nodeClass ≠ .function → r.result = none) := by
  cases recorded with
  | builtin leaf known entry =>
    refine ⟨_, entry, ?_, rfl, fun _ => rfl⟩
    rintro rfl
    cases known
  | named leaf untagged declared declaration called entry =>
    refine ⟨_, entry, ?_, rfl, fun _ => rfl⟩
    rcases declared with rfl | rfl <;> exact nofun
  | pointer pointer pointee entry => exact ⟨_, entry, nofun, rfl, fun _ => rfl⟩
  | reference ref spelling referee entry =>
    refine ⟨_, entry, ?_, rfl, fun _ => rfl⟩
    cases ref <;> exact nofun
  | array extent isArray element entry =>
    refine ⟨_, entry, ?_, rfl, fun _ => rfl⟩
    rintro rfl
    cases isArray
  | function isVariadic spelling result each entry =>
    exact ⟨_, entry, nofun, rfl, fun other => absurd rfl other⟩
  | memberObject front ofClass value object entry => exact ⟨_, entry, nofun, rfl, fun _ => rfl⟩
  | memberFunction member isVariadic spelling ofClass result each signature entry =>
    exact ⟨_, entry, nofun, rfl, fun _ => rfl⟩

theorem buildsPart_of_recorded (recorded : s.Recorded p t)
    (built : sub.node ⟨c, p⟩ = pure (some t)) : s.frontend.BuildsPart sub c p t := by
  obtain ⟨r, entry, valid, _⟩ := hasRecord_of_recorded recorded
  exact ⟨valid_of_known (type?_of_hasRecord entry) valid, required_of_node built⟩

/-! ### Readings of one entry -/

theorem spellingAt_of_hasRecord {text : List Char} (entry : s.HasRecord h r)
    (spelled : r.spelling = String.ofList text) (other : r.kind ≠ .typedef) :
    s.frontend.spellingAt ⟨c, h⟩ = .ok text :=
  spellingAt_of_text (type?_of_hasRecord entry) other spelled

theorem leafAt_of_hasRecord {leaf : LeafText} (entry : s.HasRecord h r)
    (spelled : r.spelling = String.ofList leaf.text) (other : r.kind ≠ .typedef) :
    s.frontend.leafAt ⟨c, h⟩ = .ok (leaf.cv, Spelling.stripTag leaf.name) := by
  rw [leafAt, spellingAt_of_hasRecord entry spelled other]
  show Except.ok (Spelling.leaf leaf.text) = _
  rw [Spelling.leaf, leaf.outerCv_text]

theorem userDefinedAt_of_hasRecord {leaf : LeafText} {d : Cursor} {facts : CursorFacts}
    (untagged : ∀ keyword ∈ Spelling.tagKeywords, ¬ Spelling.StartsWith keyword leaf.name)
    (declaration : s.cursors[d.index]? = some facts) (called : facts.spelling ≠ "")
    (entry : s.HasRecord h r) (spelled : r.spelling = String.ofList leaf.text)
    (link : r.declaration = some d) (other : r.kind ≠ .typedef) :
    s.frontend.userDefinedAt ⟨c, h⟩ = .ok
      ((Ty.ofNode (.userDefined ⟨facts.entity, String.ofList leaf.name⟩)).wrapped leaf.cv) := by
  have found := leafAt_of_hasRecord (c := c) entry spelled other
  have looked : s.frontend.cursor d = .ok facts := by
    have known : s.frontend.cursor? d = some facts := declaration
    rw [Frontend.cursor, known]
  have declared : (r.facts h).declaration = some d := link
  unfold userDefinedAt
  rw [look_bind found, Spelling.stripTag_of_untagged untagged]
  show (s.frontend.type h >>= _) = _
  rw [look_bind (type_of_known (type?_of_hasRecord entry))]
  simp only [declared]
  rw [look_bind looked, if_neg called, Ty.qualify_eq]
  rfl

theorem sizeAt_of_hasRecord {extent : Extent} {e : TypeHandle} {kind : TypeKind}
    (isArray : kind.isArray = true)
    (entry : s.HasRecord h
      { kind, spelling := extent.spelling, element := some e, arraySize := extent.count? }) :
    s.frontend.sizeAt ⟨c, h⟩ = .ok extent.size := by
  have known := type?_of_hasRecord entry
  cases extent with
  | constant count spelling =>
    unfold sizeAt
    rw [type_of_known known]
    rfl
  | written array =>
    have spelled : s.frontend.spellingAt ⟨c, h⟩ = .ok array.text :=
      spellingAt_of_hasRecord entry rfl (by rintro rfl; cases isArray)
    unfold sizeAt
    rw [look_bind (type_of_known known)]
    show (s.frontend.spellingAt ⟨c, h⟩ >>= _) = _
    rw [look_bind spelled, array.boundOf_text]
    simp only [Extent.size]
    cases array.first <;> rfl

theorem arrayAt_of_hasRecord {extent : Extent} {e : TypeHandle} {kind : TypeKind}
    (isArray : kind.isArray = true)
    (entry : s.HasRecord h
      { kind, spelling := extent.spelling, element := some e, arraySize := extent.count? })
    (element : s.frontend.BuildsPart sub c e t) :
    s.frontend.arrayAt sub ⟨c, h⟩ = pure (some (.ofNode (.array t extent.size))) := by
  have known := type?_of_hasRecord entry
  have found : s.frontend.elementAt h = .ok (some e) := by
    unfold elementAt
    rw [look_bind (type_of_known known)]
    show (s.frontend.valid (some e) >>= _) = _
    rw [look_bind element.valid]
    rfl
  unfold arrayAt
  rw [lift_bind_of_ok found]
  show (liftM (s.frontend.type h) >>= _) = _
  rw [lift_bind_of_ok (type_of_known known)]
  show (liftM (s.frontend.sizeAt ⟨c, h⟩) >>= _) = _
  rw [lift_bind_of_ok (sizeAt_of_hasRecord isArray entry), element.built, pure_bind]

theorem parametersAt_of_hasRecord {result : TypeHandle} {parameters : List (TypeHandle × Ty)}
    {isVariadic : Bool} {spelling : String}
    (entry : s.HasRecord h (functionRecord result parameters isVariadic spelling))
    (each : ∀ p ∈ parameters, s.frontend.BuildsPart sub c p.1 p.2) :
    s.frontend.parametersAt sub ⟨c, h⟩ = pure (parameters.map Prod.snd, isVariadic) := by
  have known := type?_of_hasRecord entry
  have place (i : Nat) : ((functionRecord result parameters isVariadic spelling).facts h).parameter
      (0 + i) = (parameters.map Prod.fst)[i]? := by
    rw [Nat.zero_add]
    rfl
  have built := parametersFrom_of_parts (h := h) place each
  unfold parametersAt
  rw [lift_bind_of_ok (type_of_known known)]
  show (s.frontend.parametersFrom sub ⟨c, h⟩ _ 0 (parameters.map Prod.fst).length >>= _) = _
  rw [List.length_map, built, pure_bind]
  rfl

theorem functionAt_of_hasRecord {result : TypeHandle} {parameters : List (TypeHandle × Ty)}
    {isVariadic : Bool} {spelling : String}
    (entry : s.HasRecord h (functionRecord result parameters isVariadic spelling))
    (returns : s.frontend.BuildsPart sub c result t)
    (each : ∀ p ∈ parameters, s.frontend.BuildsPart sub c p.1 p.2) :
    s.frontend.functionAt sub ⟨c, h⟩ =
      pure (some (.ofNode (.function t (parameters.map Prod.snd) isVariadic))) := by
  have known := type?_of_hasRecord entry
  unfold functionAt
  rw [lift_bind_of_ok (type_of_known known)]
  show (liftM (s.frontend.valid (some result)) >>= _) = _
  rw [lift_bind_of_ok returns.valid]
  show (s.frontend.required sub ⟨c, result⟩ >>= _) = _
  rw [returns.built, pure_bind, parametersAt_of_hasRecord entry each, pure_bind]

/-! ### Pointers to members -/

theorem memberAt_of_class {k v : TypeHandle} {member : MemberText}
    (entry : s.HasRecord h
      { kind := .memberPointer, spelling := String.ofList member.spelling, ofClass := some k,
        pointee := some v })
    (ofClass : s.frontend.BuildsPart sub c k t)
    (valid : s.frontend.valid (some v) = .ok (some v)) :
    s.frontend.memberAt sub ⟨c, h⟩ = do
      match ← s.frontend.valid (← s.frontend.type v).result with
      | none =>
        return .ofNode (.memberObject (member.around t) (← s.frontend.required sub ⟨c, v⟩))
      | some result =>
        let result ← s.frontend.required sub ⟨c, result⟩
        let (parameters, isVariadic) ← s.frontend.parametersAt sub ⟨c, v⟩
        return .ofNode (.memberFunction (member.around t) result parameters isVariadic) := by
  unfold memberAt
  rw [lift_bind_of_ok (spellingAt_of_hasRecord entry rfl nofun), member.trailingRef_spelling]
  simp only [member.trailingCv_text]
  rw [lift_bind_of_ok (type_of_known (type?_of_hasRecord entry))]
  simp only [TypeRecord.facts]
  rw [lift_bind_of_ok ofClass.valid]
  simp only
  rw [ofClass.built, pure_bind, lift_bind_of_ok valid, Ty.qualify_eq]
  unfold MemberText.around
  cases member.ref <;> rfl

theorem memberAt_of_object {k v : TypeHandle} {u : Ty} {value : TypeRecord} {member : MemberText}
    (entry : s.HasRecord h
      { kind := .memberPointer, spelling := String.ofList member.spelling, ofClass := some k,
        pointee := some v })
    (object : s.HasRecord v value) (plain : value.result = none)
    (ofClass : s.frontend.BuildsPart sub c k t) (part : s.frontend.BuildsPart sub c v u) :
    s.frontend.memberAt sub ⟨c, h⟩ = pure (.ofNode (.memberObject (member.around t) u)) := by
  have none : s.frontend.valid (value.facts v).result = .ok none := by
    show s.frontend.valid value.result = _
    rw [plain]
    rfl
  rw [memberAt_of_class entry ofClass part.valid,
    lift_bind_of_ok (type_of_known (type?_of_hasRecord object)), lift_bind_of_ok none, part.built,
    pure_bind]

theorem memberAt_of_function {k f result : TypeHandle} {u : Ty}
    {parameters : List (TypeHandle × Ty)} {isVariadic : Bool} {spelling : String}
    {member : MemberText}
    (entry : s.HasRecord h
      { kind := .memberPointer, spelling := String.ofList member.spelling, ofClass := some k,
        pointee := some f })
    (signature : s.HasRecord f (functionRecord result parameters isVariadic spelling))
    (ofClass : s.frontend.BuildsPart sub c k t) (returns : s.frontend.BuildsPart sub c result u)
    (each : ∀ p ∈ parameters, s.frontend.BuildsPart sub c p.1 p.2) :
    s.frontend.memberAt sub ⟨c, h⟩ = pure (.ofNode
      (.memberFunction (member.around t) u (parameters.map Prod.snd) isVariadic)) := by
  have known := type?_of_hasRecord signature
  rw [memberAt_of_class entry ofClass (valid_of_known known nofun),
    lift_bind_of_ok (type_of_known known)]
  simp only [TypeRecord.facts, functionRecord]
  rw [lift_bind_of_ok returns.valid]
  simp only
  rw [returns.built, pure_bind, parametersAt_of_hasRecord signature each, pure_bind]

/-! ### Sizes -/

theorem sizeOf_le_wrapped (t : Ty) (cv : Cv) : sizeOf t ≤ sizeOf (t.wrapped cv) := by
  unfold Ty.wrapped
  split
  · simp only [Ty.ofNode, Ty.mk.sizeOf_spec, Node.qualified.sizeOf_spec]
    omega
  · exact Nat.le_refl _

theorem sizeOf_lt_pointer (t : Ty) : sizeOf t < sizeOf (Ty.ofNode (.pointer t)) := by
  simp only [Ty.ofNode, Ty.mk.sizeOf_spec, Node.pointer.sizeOf_spec]
  omega

theorem sizeOf_lt_function (result : Ty) (parameters : List (TypeHandle × Ty))
    (isVariadic : Bool) :
    let whole := sizeOf (Ty.ofNode (.function result (parameters.map Prod.snd) isVariadic))
    sizeOf result < whole ∧ ∀ p ∈ parameters, sizeOf p.2 < whole := by
  simp only [Ty.ofNode, Ty.mk.sizeOf_spec, Node.function.sizeOf_spec]
  refine ⟨by omega, fun p member => ?_⟩
  have := List.sizeOf_lt_of_mem (List.mem_map_of_mem (f := Prod.snd) member)
  omega

theorem sizeOf_lt_memberFunction (member : MemberText) (ofClass result : Ty)
    (parameters : List (TypeHandle × Ty)) (isVariadic : Bool) :
    let whole := sizeOf (Ty.ofNode (.pointer (.ofNode
      (.memberFunction (member.around ofClass) result (parameters.map Prod.snd) isVariadic))))
    sizeOf ofClass < whole ∧ sizeOf result < whole ∧ ∀ p ∈ parameters, sizeOf p.2 < whole := by
  have around : sizeOf ofClass ≤ sizeOf (member.around ofClass) := by
    have := sizeOf_le_wrapped ofClass member.cv.cv
    unfold MemberText.around
    cases member.ref with
    | none => exact this
    | some kind =>
      simp only [Ty.ofNode, Ty.mk.sizeOf_spec, Node.reference.sizeOf_spec]
      omega
  simp only [Ty.ofNode, Ty.mk.sizeOf_spec, Node.pointer.sizeOf_spec,
    Node.memberFunction.sizeOf_spec]
  refine ⟨by omega, by omega, fun p member => ?_⟩
  have := List.sizeOf_lt_of_mem (List.mem_map_of_mem (f := Prod.snd) member)
  omega

/-- A tree is built from its entry if the trees inside of it are built from theirs. -/
theorem nodeAt_of_recorded (recorded : s.Recorded h t)
    (inner : ∀ p u, s.Recorded p u → sizeOf u < sizeOf t → sub.node ⟨c, p⟩ = pure (some u)) :
    s.frontend.nodeAt sub ⟨c, h⟩ = pure (some t) := by
  have part {p : TypeHandle} {u : Ty} (recorded : s.Recorded p u) (smaller : sizeOf u < sizeOf t) :
      s.frontend.BuildsPart sub c p u := buildsPart_of_recorded recorded (inner p u recorded smaller)
  cases recorded with
  | builtin leaf known entry =>
    have found := leafAt_of_hasRecord (c := c) entry rfl (by rintro rfl; cases known)
    unfold nodeAt
    rw [lift_bind_of_ok (type_of_known (type?_of_hasRecord entry))]
    simp only [TypeRecord.facts, known]
    rw [lift_bind_of_ok found, Ty.qualify_eq]
  | @named _ kind d facts leaf untagged declared declaration called entry =>
    have other : kind ≠ .typedef := by rcases declared with rfl | rfl <;> exact nofun
    have named :=
      userDefinedAt_of_hasRecord (c := c) untagged declaration called entry rfl rfl other
    unfold nodeAt
    rw [lift_bind_of_ok (type_of_known (type?_of_hasRecord entry))]
    rcases declared with rfl | rfl
    all_goals
      show liftM (s.frontend.userDefinedAt ⟨c, h⟩) >>= _ = _
      rw [lift_bind_of_ok named]
  | @pointer _ p u pointer pointee entry =>
    have known := type?_of_hasRecord entry
    have smaller : sizeOf u < sizeOf ((Ty.ofNode (.pointer u)).wrapped pointer.cv.cv) := by
      have := sizeOf_lt_pointer u
      have := sizeOf_le_wrapped (.ofNode (.pointer u)) pointer.cv.cv
      omega
    have spelled : s.frontend.spellingAt ⟨c, h⟩ = .ok pointer.text :=
      spellingAt_of_hasRecord entry rfl nofun
    unfold nodeAt
    rw [lift_bind_of_ok (type_of_known known)]
    show s.frontend.pointeeAt sub ⟨c, h⟩ >>= _ = _
    rw [pointeeAt_of_part known rfl (part pointee smaller), pure_bind, lift_bind_of_ok spelled,
      pointer.trailingCv_text, ← Ty.qualify_eq]
  | @reference _ p u ref spelling referee entry =>
    have known := type?_of_hasRecord entry
    have smaller : sizeOf u < sizeOf (Ty.ofNode (.reference u ref)) := by
      simp only [Ty.ofNode, Ty.mk.sizeOf_spec, Node.reference.sizeOf_spec]
      omega
    have built := pointeeAt_of_part known rfl (part referee smaller)
    unfold nodeAt
    rw [lift_bind_of_ok (type_of_known known)]
    cases ref
    all_goals
      show s.frontend.pointeeAt sub ⟨c, h⟩ >>= _ = _
      rw [built, pure_bind]
  | @array _ e u kind extent isArray element entry =>
    have smaller : sizeOf u < sizeOf (Ty.ofNode (.array u extent.size)) := by
      simp only [Ty.ofNode, Ty.mk.sizeOf_spec, Node.array.sizeOf_spec]
      omega
    have built := arrayAt_of_hasRecord isArray entry (part element smaller)
    unfold nodeAt
    rw [lift_bind_of_ok (type_of_known (type?_of_hasRecord entry))]
    cases kind <;> first | exact built | cases isArray
  | @function _ _ u parameters isVariadic spelling result each entry =>
    obtain ⟨forResult, forEach⟩ := sizeOf_lt_function u parameters isVariadic
    have built := functionAt_of_hasRecord entry (part result forResult)
      fun p member => part (each p member) (forEach p member)
    unfold nodeAt
    rw [lift_bind_of_ok (type_of_known (type?_of_hasRecord entry))]
    show s.frontend.functionAt sub ⟨c, h⟩ >>= _ = _
    rw [built, pure_bind]
  | @memberObject _ _ v u w front ofClass value object entry =>
    have smaller : sizeOf u < sizeOf (Ty.ofNode (.pointer (.ofNode (.memberObject u w)))) ∧
        sizeOf w < sizeOf (Ty.ofNode (.pointer (.ofNode (.memberObject u w)))) := by
      simp only [Ty.ofNode, Ty.mk.sizeOf_spec, Node.pointer.sizeOf_spec,
        Node.memberObject.sizeOf_spec]
      omega
    obtain ⟨record, entry', _, _, plain⟩ := hasRecord_of_recorded value
    rw [← MemberText.spelling_object front] at entry
    have built := memberAt_of_object entry entry' (plain object) (part ofClass smaller.1)
      (part value smaller.2)
    unfold nodeAt
    rw [lift_bind_of_ok (type_of_known (type?_of_hasRecord entry))]
    show s.frontend.memberAt sub ⟨c, h⟩ >>= _ = _
    rw [built, pure_bind]
    rfl
  | @memberFunction _ _ _ _ u v parameters member isVariadic spelling ofClass result each signature
      entry =>
    obtain ⟨forClass, forResult, forEach⟩ :=
      sizeOf_lt_memberFunction member u v parameters isVariadic
    have built := memberAt_of_function entry signature (part ofClass forClass)
      (part result forResult) fun p member => part (each p member) (forEach p member)
    unfold nodeAt
    rw [lift_bind_of_ok (type_of_known (type?_of_hasRecord entry))]
    show s.frontend.memberAt sub ⟨c, h⟩ >>= _ = _
    rw [built, pure_bind]

/-! ### Depths -/

theorem node_of_recorded_of_le {depth : Nat} (recorded : s.Recorded h t)
    (enough : sizeOf t ≤ depth) : (s.frontend.builder depth).node ⟨c, h⟩ = pure (some t) := by
  induction depth generalizing h t with
  | zero =>
    rcases t with ⟨node, form⟩
    simp only [Ty.mk.sizeOf_spec] at enough
    omega
  | succ depth ih =>
    refine nodeAt_of_recorded recorded fun p u inside smaller => ih inside ?_
    omega

theorem recorded_unique {u : Ty} (recorded : s.Recorded h t) (recorded' : s.Recorded h u) :
    t = u := by
  have built := node_of_recorded_of_le (c := .afterCount 0) recorded
    (Nat.le_max_left (sizeOf t) (sizeOf u))
  have built' := node_of_recorded_of_le (c := .afterCount 0) recorded'
    (Nat.le_max_right (sizeOf t) (sizeOf u))
  have same := congrArg Build.outcome (built.symm.trans built')
  exact Option.some.inj (Except.ok.inj same)

theorem index_lt_of_recorded (recorded : s.Recorded h t) : h.index < s.types.size := by
  obtain ⟨r, entry, _⟩ := hasRecord_of_recorded recorded
  exact (Array.getElem?_eq_some_iff.mp entry).1

/-- Different entries of a table are no more than it has. -/
theorem length_le_of_nodup {handles : List TypeHandle} (distinct : handles.Nodup)
    (inside : ∀ h ∈ handles, h.index < s.types.size) : handles.length ≤ s.types.size := by
  have places : (handles.map Handle.index).Nodup := by
    refine List.Pairwise.map _ (fun a b different same => different ?_) distinct
    have := a.positive
    have := b.positive
    simp only [Handle.index] at same
    exact Handle.ext_number (by omega)
  have within : handles.map Handle.index ⊆ List.range s.types.size := by
    intro i member
    obtain ⟨h, known, rfl⟩ := List.mem_map.mp member
    exact List.mem_range.mpr (inside h known)
  have := places.length_le_of_subset within
  rwa [List.length_map, List.length_range] at this

/-- No entry comes back on the way inwards, for it would hold a tree within itself. -/
theorem path_of_recorded {above : List TypeHandle} (recorded : s.Recorded h t)
    (distinct : above.Nodup)
    (larger : ∀ a ∈ above, ∃ u, s.Recorded a u ∧ sizeOf t < sizeOf u) :
    (h :: above).Nodup ∧ above.length < s.types.size := by
  have fresh : h ∉ above := by
    intro member
    obtain ⟨u, again, more⟩ := larger h member
    rw [recorded_unique recorded again] at more
    exact Nat.lt_irrefl _ more
  have path : (h :: above).Nodup := List.nodup_cons.mpr ⟨fresh, distinct⟩
  refine ⟨path, length_le_of_nodup path fun a member => ?_⟩
  rcases List.mem_cons.mp member with rfl | member
  · exact index_lt_of_recorded recorded
  · obtain ⟨u, known, _⟩ := larger a member
    exact index_lt_of_recorded known

theorem node_of_recorded {depth : Nat} {above : List TypeHandle} (recorded : s.Recorded h t)
    (distinct : above.Nodup)
    (larger : ∀ a ∈ above, ∃ u, s.Recorded a u ∧ sizeOf t < sizeOf u)
    (enough : s.types.size ≤ depth + above.length) :
    (s.frontend.builder depth).node ⟨c, h⟩ = pure (some t) := by
  -- The depth left and the types around this one make up for the whole table.
  induction depth generalizing h t above with
  | zero =>
    obtain ⟨_, room⟩ := path_of_recorded recorded distinct larger
    omega
  | succ depth ih =>
    obtain ⟨path, _⟩ := path_of_recorded recorded distinct larger
    refine nodeAt_of_recorded recorded fun p u inside smaller => ih inside path ?_ ?_
    · intro a member
      rcases List.mem_cons.mp member with rfl | member
      · exact ⟨t, recorded, smaller⟩
      · obtain ⟨v, known, more⟩ := larger a member
        exact ⟨v, known, Nat.lt_trans smaller more⟩
    · rw [List.length_cons]
      omega

theorem typeBuilder_of_recorded (recorded : s.Recorded h t) :
    s.frontend.typeBuilder.node ⟨c, h⟩ = pure (some t) := by
  refine node_of_recorded recorded List.nodup_nil (fun a member => ?_) ?_
  · cases member
  · show s.types.size ≤ 4 * (s.types.size + 1) * (s.cursors.size + 1) + 0
    have : 4 * (s.types.size + 1) * 1 ≤ 4 * (s.types.size + 1) * (s.cursors.size + 1) :=
      Nat.mul_le_mul_left _ (Nat.le_add_left 1 _)
    omega

def leafA (after : CvText) : LeafText where
  before := .none
  frontGap := .space
  name := "A".toList
  backGap := .space
  after := after
  nonempty := by decide
  visible := by decide
  bare q := by cases q <;> decide

def leafInt (before : CvText) : LeafText where
  before := before
  frontGap := .space
  name := "int".toList
  backGap := .space
  after := .none
  nonempty := by decide
  visible := by decide
  bare q := by cases q <;> decide

def rowsText : BoundsText where
  base := "int".toList
  first := "N".toList
  more := ["3".toList]
  apart := by decide
  closed := by decide
  visible := by decide

/-- The entries of `const int (A::*)(A volatile *const, int (&)[N][3], ...) const &&`. -/
def methods : Snapshot where
  cursors := #[{ kind := .classDecl, spelling := "A", entity := ⟨"A"⟩ }]
  types := #[
    { kind := .record, spelling := "A", declaration := some (.afterCount 0) },
    { kind := .int, spelling := "const int" },
    { kind := .record, spelling := "A volatile", declaration := some (.afterCount 0) },
    { kind := .pointer, spelling := "A volatile *const", pointee := some (.afterCount 2) },
    { kind := .int, spelling := "int" },
    { kind := .constantArray, spelling := "int[3]", element := some (.afterCount 4),
      arraySize := some 3 },
    { kind := .dependentSizedArray, spelling := "int[N][3]", element := some (.afterCount 5) },
    { kind := .lvalueReference, spelling := "int (&)[N][3]", pointee := some (.afterCount 6) },
    { kind := .functionProto,
      spelling := "const int (A volatile *const, int (&)[N][3], ...) const &&",
      result := some (.afterCount 1), parameters := some [.afterCount 3, .afterCount 7],
      isVariadic := true },
    { kind := .memberPointer,
      spelling := "const int (A::*)(A volatile *const, int (&)[N][3], ...) const &&",
      ofClass := some (.afterCount 0), pointee := some (.afterCount 8) }]

def classA : Ty := .ofNode (.userDefined ⟨⟨"A"⟩, "A"⟩)

def pointerA : Ty :=
  .ofNode (.qualified
    (.ofNode (.pointer (.ofNode (.qualified classA { isVolatile := true }))))
    { isConst := true })

def matrix : Ty :=
  .ofNode (.array
    (.ofNode (.array (.ofBuiltin .int) (some (.literal (.ofBuiltin .ulongLong) "3"))))
    (some (.unexposed (.ofBuiltin .ulongLong) ["N"])))

def method : Ty :=
  .ofNode (.pointer (.ofNode (.memberFunction
    (.ofNode (.reference (.ofNode (.qualified classA { isConst := true })) .rvalue))
    (.ofNode (.qualified (.ofBuiltin .int) { isConst := true }))
    [pointerA, .ofNode (.reference matrix .lvalue)] true)))

def starConst : SignText where
  front := "A volatile ".toList
  sign := '*'
  pad := []
  cv := .one .const
  isSign := by decide
  blank := rfl

def constRvalue : MemberText where
  front := "const int (A::*)(A volatile *const, int (&)[N][3], ...".toList
  sign := ')'
  pad := [' ']
  cv := .one .const
  isSign := .tail _ (.head _)
  blank := rfl
  refPad := [' ']
  ref := some .rvalue
  refBlank := rfl

theorem recorded_methods : methods.Recorded (.afterCount 9) method := by
  have untagged : ∀ keyword ∈ Spelling.tagKeywords, ¬ Spelling.StartsWith keyword "A".toList := by
    decide
  have declared : methods.cursors[(Handle.afterCount 0 : Cursor).index]? =
      some { kind := .classDecl, spelling := "A", entity := ⟨"A"⟩ } := rfl
  have named (h : TypeHandle) (after : CvText) (entry : methods.HasRecord h
      { kind := .record, spelling := String.ofList (leafA after).text,
        declaration := some (.afterCount 0) }) :
      methods.Recorded h (classA.wrapped (leafA after).cv) :=
    .named (leafA after) untagged (.inl rfl) declared (by decide) entry
  have int (h : TypeHandle) (before : CvText) (entry : methods.HasRecord h
      { kind := .int, spelling := String.ofList (leafInt before).text }) :
      methods.Recorded h ((Ty.ofBuiltin .int).wrapped (leafInt before).cv) :=
    .builtin (leafInt before) rfl entry
  have pointee : methods.Recorded (.afterCount 2)
      (.ofNode (.qualified classA { isVolatile := true })) := named _ (.one .volatile) rfl
  have pointer : methods.Recorded (.afterCount 3) pointerA := .pointer starConst pointee rfl
  have element : methods.Recorded (.afterCount 4) (.ofBuiltin .int) := int _ .none rfl
  have rowEntry : methods.HasRecord (.afterCount 5)
      { kind := .constantArray, spelling := "int[3]", element := some (.afterCount 4),
        arraySize := some 3 } := rfl
  have row : methods.Recorded (.afterCount 5) (.ofNode (.array (.ofBuiltin .int)
      (some (.literal (.ofBuiltin .ulongLong) "3")))) :=
    .array (.constant 3 "int[3]") rfl element rowEntry
  have rowsEntry : methods.HasRecord (.afterCount 6)
      { kind := .dependentSizedArray, spelling := String.ofList rowsText.text,
        element := some (.afterCount 5) } := rfl
  have rows : methods.Recorded (.afterCount 6) matrix :=
    .array (.written rowsText) rfl row rowsEntry
  have reference : methods.Recorded (.afterCount 7) (.ofNode (.reference matrix .lvalue)) :=
    .reference .lvalue "int (&)[N][3]" rows rfl
  have each : ∀ p ∈ [(Handle.afterCount 3, pointerA),
      (Handle.afterCount 7, .ofNode (.reference matrix .lvalue))], methods.Recorded p.1 p.2 := by
    simp only [List.mem_cons, List.not_mem_nil, or_false, forall_eq_or_imp, forall_eq]
    exact ⟨pointer, reference⟩
  have ofClass : methods.Recorded (.afterCount 0) classA := named _ .none rfl
  have result : methods.Recorded (.afterCount 1)
      (.ofNode (.qualified (.ofBuiltin .int) { isConst := true })) := int _ (.one .const) rfl
  have signature : methods.HasRecord (.afterCount 8) (functionRecord (.afterCount 1)
      [(.afterCount 3, pointerA), (.afterCount 7, .ofNode (.reference matrix .lvalue))] true
      "const int (A volatile *const, int (&)[N][3], ...) const &&") := rfl
  exact .memberFunction constRvalue true _ ofClass result each signature rfl

end Snapshot

end CxxTrees
