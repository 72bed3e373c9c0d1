import CxxTrees.Proofs.Build.Parts
import CxxTrees.Proofs.Build.Recorded
import CxxTrees.Proofs.Spelling.Written
import CxxTrees.Snapshot.Basic

/-!
# Qualifiers of pointers to data members

What stands behind the sign of a pointer to a member function qualifies the object that the
function is called on. Behind the sign of a pointer to a data member, as in `int A::*const`, the
qualifiers are those of the pointer, and they are given to the class all the same
(`dataMemberCv_iff`).
-/

namespace CxxTrees

/-- A pointer to a data member as it is spelled: the type of the member and the class, then the
sign, and qualifiers behind it. -/
structure DataMemberText where
  front : List Char
  pad : Blanks
  cv : CvText

namespace DataMemberText
variable (written : DataMemberText)

def text : List Char := written.front ++ "::*".toList ++ written.cv.behind written.pad.text

/-- The same text, read as one that may end with a ref-qualifier. -/
def member : MemberText :=
  { MemberText.object (written.front ++ "::".toList) with
    pad := written.pad.text
    cv := written.cv
    blank := written.pad.blank }

theorem spelling_member : written.member.spelling = written.text := by
  simp [member, MemberText.object, text, MemberText.spelling, SignText.text, SignText.bare,
    refBehind]

end DataMemberText

namespace Frontend
variable {fe : Frontend} {site : Site} {facts : TypeFacts} {c v : TypeHandle} {ofClass value : Ty}
  {written : DataMemberText}

/-- A pointer to a data member whose class and value are built, and whose canonical form is too if
that is another type. -/
structure SpelledAsDataMember (fe : Frontend) (site : Site) (facts : TypeFacts) (c v : TypeHandle)
    (ofClass value : Ty) (written : DataMemberText) : Prop where
  known : fe.type? site.type = some facts
  member : facts.kind = .memberPointer
  spelled : facts.spelling = String.ofList written.text
  class_ : fe.valid facts.ofClass = .ok (some c)
  classBuilt : (fe.required fe.partBuilder ⟨site.cursor, c⟩).outcome = .ok ofClass
  value_ : fe.valid facts.pointee = .ok (some v)
  data : ∃ valueFacts, fe.type? v = some valueFacts ∧ fe.valid valueFacts.result = .ok none
  valueBuilt : (fe.required fe.partBuilder ⟨site.cursor, v⟩).outcome = .ok value
  canonical : facts.canonical = site.type ∨ ∃ canonical,
    (fe.required fe.typeBuilder ⟨site.cursor, facts.canonical⟩).outcome = .ok canonical

namespace SpelledAsDataMember
variable (spelled : fe.SpelledAsDataMember site facts c v ofClass value written)
include spelled

theorem memberAt_outcome : (fe.memberAt fe.partBuilder site).outcome =
    .ok (.ofNode (.memberObject (ofClass.qualify written.cv.cv) value)) := by
  obtain ⟨valueFacts, known, data⟩ := spelled.data
  have text : fe.spellingAt site = .ok written.member.spelling :=
    spellingAt_of_text spelled.known (by rw [spelled.member]; nofun)
      (written.spelling_member ▸ spelled.spelled)
  unfold memberAt
  rw [lift_bind_of_ok text, written.member.trailingRef_spelling]
  simp only [written.member.trailingCv_text]
  rw [lift_bind_of_ok (type_of_known spelled.known), lift_bind_of_ok spelled.class_,
    Build.outcome_bind, look_bind spelled.classBuilt, lift_bind_of_ok spelled.value_]
  simp only
  rw [lift_bind_of_ok (type_of_known known), lift_bind_of_ok data]
  simp only
  rw [Build.outcome_bind, look_bind spelled.valueBuilt]
  rfl

/-- What is built is a bare pointer, and the class of its pointee has the qualifiers. -/
theorem typeAt_dataMember : ∃ canonical, (fe.typeAt site).outcome = .ok (.mk
    (.pointer (.ofNode (.memberObject (ofClass.qualify written.cv.cv) value)))
    (some canonical)) := by
  let declared :=
    Ty.ofNode (.pointer (.ofNode (.memberObject (ofClass.qualify written.cv.cv) value)))
  have built : (fe.required fe.typeBuilder site).outcome = .ok declared := by
    have node : (fe.nodeAt fe.partBuilder site).outcome = .ok (some declared) := by
      unfold nodeAt
      rw [lift_bind_of_ok (type_of_known spelled.known)]
      rw [spelled.member]
      show (fe.memberAt fe.partBuilder site >>= _).outcome = _
      rw [Build.outcome_bind, spelled.memberAt_outcome]
      rfl
    rw [required, typeBuilder_node, Build.outcome_bind, node]
    rfl
  have kind : declared.nodeClass = .pointer := rfl
  exact exists_typeAt spelled.known built rfl ⟨by rw [kind]; decide, by rw [kind]; decide⟩
    spelled.canonical

end SpelledAsDataMember

/-- A pointer to a data member is built with its qualifiers around its class, and so as it is
spelled exactly if it has none. -/
theorem dataMemberCv_iff (spelled : fe.SpelledAsDataMember site facts c v ofClass value written) :
    ((∃ t, (fe.typeAt site).outcome = .ok t ∧ t.node =
        ((Ty.ofNode (.pointer (.ofNode (.memberObject ofClass value)))).wrapped
          written.cv.cv).node) ↔
      written.cv = .none) ∧
    ∃ t, (fe.typeAt site).outcome = .ok t ∧
      t.node = .pointer (.ofNode (.memberObject (ofClass.wrapped written.cv.cv) value)) := by
  obtain ⟨canonical, built⟩ := spelled.typeAt_dataMember
  simp only [← Ty.qualify_eq]
  refine ⟨?_, _, built, rfl⟩
  constructor
  · rintro ⟨t, built', node⟩
    cases built.symm.trans built'
    have bare : Cv.none = written.cv.cv := Ty.qualify_inj (by nofun) (by nofun) node
    exact CvText.cv_eq_none.mp bare.symm
  · intro unqualified
    refine ⟨_, built, ?_⟩
    rw [unqualified]
    rfl

/-- A class, and pointers to data members of it: a constant one and one without qualifiers. -/
def fields : Snapshot where
  cursors := #[
    { kind := .classDecl, spelling := "A", entity := ⟨"A"⟩, type := some (.afterCount 1) },
    { kind := .varDecl, spelling := "field", entity := ⟨"field"⟩ }]
  types := #[
    { kind := .int, spelling := "int" },
    { kind := .record, spelling := "A", declaration := some (.afterCount 0) },
    { kind := .memberPointer, spelling := "int A::*const", pointee := some (.afterCount 0),
      ofClass := some (.afterCount 1) },
    { kind := .memberPointer, spelling := "int A::*", pointee := some (.afterCount 0),
      ofClass := some (.afterCount 1) }]

def fieldClass : Ty := .ofNode (.userDefined ⟨⟨"A"⟩, "A"⟩)

def fieldText (cv : CvText) : DataMemberText := ⟨"int A".toList, .none, cv⟩

def fieldRecord (cv : CvText) : TypeRecord where
  kind := .memberPointer
  spelling := String.ofList (fieldText cv).text
  pointee := some (.afterCount 0)
  ofClass := some (.afterCount 1)

theorem required_fieldClass : (fields.frontend.required fields.frontend.partBuilder
    ⟨.afterCount 1, .afterCount 1⟩).outcome = .ok fieldClass := rfl

theorem required_fieldValue : (fields.frontend.required fields.frontend.partBuilder
    ⟨.afterCount 1, .afterCount 0⟩).outcome = .ok (.ofBuiltin .int) := rfl

theorem spelledAsDataMember_field {h : TypeHandle} {cv : CvText}
    (entry : fields.HasRecord h (fieldRecord cv)) :
    fields.frontend.SpelledAsDataMember ⟨.afterCount 1, h⟩ ((fieldRecord cv).facts h)
      (.afterCount 1) (.afterCount 0) fieldClass (.ofBuiltin .int) (fieldText cv) where
  known := Snapshot.type?_of_hasRecord entry
  member := rfl
  spelled := rfl
  class_ := rfl
  classBuilt := required_fieldClass
  value_ := rfl
  data := ⟨_, rfl, rfl⟩
  valueBuilt := required_fieldValue
  canonical := .inl rfl

theorem hasRecord_constant : fields.HasRecord (.afterCount 2) (fieldRecord (.one .const)) := rfl

theorem hasRecord_bare : fields.HasRecord (.afterCount 3) (fieldRecord .none) := rfl

theorem dataMemberCv_iff_fields :
    (∃ t, (fields.frontend.typeAt ⟨.afterCount 1, .afterCount 3⟩).outcome = .ok t ∧
      t.node = .pointer (.ofNode (.memberObject fieldClass (.ofBuiltin .int)))) ∧
    (∃ t, (fields.frontend.typeAt ⟨.afterCount 1, .afterCount 2⟩).outcome = .ok t ∧
      t.node = .pointer (.ofNode (.memberObject (.ofNode (.qualified fieldClass ⟨true, false⟩))
        (.ofBuiltin .int)))) ∧
    ¬ ∃ t, (fields.frontend.typeAt ⟨.afterCount 1, .afterCount 2⟩).outcome = .ok t ∧
      t.node = .qualified
        (.ofNode (.pointer (.ofNode (.memberObject fieldClass (.ofBuiltin .int)))))
        ⟨true, false⟩ := by
  have constant := spelledAsDataMember_field hasRecord_constant
  have bare := spelledAsDataMember_field hasRecord_bare
  refine ⟨(dataMemberCv_iff bare).1.mpr rfl, (dataMemberCv_iff constant).2, fun kept => ?_⟩
  cases (dataMemberCv_iff constant).1.mp kept

/-- Every pointer to a data member is built in the qualifiers behind its sign, and its class is
built as it is recorded. -/
def KeepsDataMemberCv (fe : Frontend) : Prop :=
  ∀ {site : Site} {facts : TypeFacts} {c v : TypeHandle} {ofClass value : Ty}
    {written : DataMemberText}, fe.SpelledAsDataMember site facts c v ofClass value written →
    ∃ t, (fe.typeAt site).outcome = .ok t ∧ t.node =
      ((Ty.ofNode (.pointer (.ofNode (.memberObject ofClass value)))).wrapped written.cv.cv).node

theorem not_keepsDataMemberCv_fields : ¬ fields.frontend.KeepsDataMemberCv := by
  intro keeps
  have constant := spelledAsDataMember_field hasRecord_constant
  obtain ⟨t, built, node⟩ := keeps constant
  obtain ⟨canonical, built'⟩ := constant.typeAt_dataMember
  cases built.symm.trans built'
  cases node

end Frontend
end CxxTrees
