import CxxTrees.Proofs.Build.Arguments
import CxxTrees.Proofs.Spelling.MemberArguments

/-!
# Instantiations of member templates

A type may be spelled with a member template of an instantiation, as in
`Outer<int>::Inner<bool>`. It refers to the member, but goes by the name of the outer
template, and has that template's arguments but for the last, which goes on with the rest of
the spelling. Where the frontend has types for its arguments this may go unnoticed, unless
the numbers differ (`instantiation_of_member_iff`).
-/

namespace CxxTrees.Frontend
open Text
variable {fe : Frontend} {sub : Builder} {site : Site} {template : Cursor} {facts : TypeFacts}
  {handle : Option TypeHandle} {text text' rest : List Char} {texts texts' : List (List Char)}
  {argument : Argument} {list : List Argument} {written : InstantiationText}
  {args members : List Spelling.ArgumentText} {answer : Option Ty}

/-! ### Arguments that are read from their texts -/

theorem exists_argumentOfText (text : List Char) :
    ∃ e : Expr, argumentOfText text = .expr e ∧ e.type = .unexposed (String.ofList text) := by
  unfold argumentOfText
  split <;> exact ⟨_, rfl, rfl⟩

theorem argumentOfText_injective (same : argumentOfText text = argumentOfText text') :
    text = text' := by
  obtain ⟨e, expr, type⟩ := exists_argumentOfText text
  obtain ⟨e', expr', type'⟩ := exists_argumentOfText text'
  obtain rfl : e = e' := Argument.expr.inj (expr.symm.trans (same.trans expr'))
  have node := congrArg Ty.node (type.symm.trans type')
  exact String.ofList_injective (Node.unexposed.inj node)

theorem ReadsArgument.eq_ofText (untyped : Untyped sub template handle)
    (reads : ReadsArgument sub template handle text argument) : argument = argumentOfText text := by
  cases reads with
  | type known built visible =>
    obtain ⟨_, built', blank⟩ := untyped _ known
    cases built.symm.trans built'
    cases visible.symm.trans (blank _ rfl)
  | number _ number => simp [argumentOfText, number]
  | tokens _ other => simp [argumentOfText, other]

theorem ReadsArgument.of_typed (typed : ¬ Untyped sub template handle)
    (reads : ReadsArgument sub template handle text argument) :
    ReadsArgument sub template handle text' argument := by
  cases reads with
  | type known built visible => exact .type known built visible
  | number untyped => exact absurd untyped typed
  | tokens untyped => exact absurd untyped typed

/-- Texts are told apart by the arguments that have no type. -/
theorem ReadsArguments.iff_of_texts (reads : ReadsArguments sub template facts texts list) :
    ReadsArguments sub template facts texts' list ↔ texts'.length = texts.length ∧
      ∀ i text, texts'[i]? = some text → Untyped sub template (facts.argument i) →
        texts[i]? = some text := by
  constructor
  · intro reads'
    refine ⟨reads'.length.symm.trans reads.length, fun i text place untyped => ?_⟩
    have inside : i < list.length := by
      rw [reads'.length]
      exact (List.getElem?_eq_some_iff.mp place).1
    obtain ⟨text₁, place₁, reads₁⟩ := reads.each i _ (List.getElem?_eq_getElem inside)
    obtain ⟨text₂, place₂, reads₂⟩ := reads'.each i _ (List.getElem?_eq_getElem inside)
    cases place.symm.trans place₂
    have same := (reads₁.eq_ofText untyped).symm.trans (reads₂.eq_ofText untyped)
    rw [place₁, argumentOfText_injective same]
  · rintro ⟨count, agree⟩
    refine ⟨reads.length.trans count.symm, fun i argument place => ?_⟩
    obtain ⟨text, place, reads⟩ := reads.each i argument place
    have inside : i < texts'.length := by
      rw [count]
      exact (List.getElem?_eq_some_iff.mp place).1
    refine ⟨texts'[i], List.getElem?_eq_getElem inside, ?_⟩
    by_cases untyped : Untyped sub template (facts.argument i)
    · cases place.symm.trans (agree i _ (List.getElem?_eq_getElem inside) untyped)
      exact reads
    · exact reads.of_typed untyped

/-! ### Members -/

/-- A type is spelled as a member template with the arguments `members`, in the scope of a name with
the arguments `args` and perhaps of further names with arguments. The template that it declares is
the member, and the frontend counts arguments of it. -/
structure SpelledAsMember (fe : Frontend) (site : Site) (facts : TypeFacts) (template : Cursor)
    (written : InstantiationText) (args members : List Spelling.ArgumentText) (rest : List Char) :
    Prop where
  known : fe.type? site.type = some facts
  spelled : facts.spelling = String.ofList written.text
  foreign : fe.isLocalTypedef site = .ok false
  scope : ∃ s, written.body = s ++ rest ∧ Spelling.Lists args s
  member : Spelling.MemberText members rest
  declared : ∃ d, facts.declaration = some d ∧ fe.templateOfDeclaration d = .ok (some template)
  counted : ∃ count, facts.argumentCount = some (count + 1)

/-- The instantiation of a member refers to the member by the name of its scope, and its arguments
are read from the texts of the scope's, of which the last goes on with the rest. So they are those
of the member just if there are as many, and all that have no type stand in front of the scope's
last and have the same text there. -/
theorem instantiation_of_member_iff
    (member : fe.SpelledAsMember site facts template written args members rest)
    (built : (fe.instantiationAt sub site).outcome = .ok answer) :
    ∃ declared list last, fe.cursor? template = some declared ∧
      answer = some ((Ty.ofNode (.instantiation ⟨declared.entity, String.ofList written.name⟩
        (.exposed list))).wrapped written.cv) ∧
      ReadsArguments sub template facts (args.dropLast.map (·.text) ++ [last ++ trimEnd rest])
        list ∧
      (ReadsArguments sub template facts (members.map (·.text)) list ↔
        members.length = max 1 args.length ∧
          ∀ i a, members[i]? = some a → Untyped sub template (facts.argument i) →
            ∃ a', args.dropLast[i]? = some a' ∧ a'.text = a.text) := by
  obtain ⟨s, body, lists⟩ := member.scope
  obtain ⟨d, declaration, templated⟩ := member.declared
  obtain ⟨count, counted⟩ := member.counted
  obtain ⟨declared, list, cursor, same, reads⟩ :=
    instantiationAt_of_text member.known member.spelled member.foreign
      (templateAt_of_declaration member.known declaration templated _) counted built
  obtain ⟨last, cut, other⟩ := Spelling.arguments_of_member lists member.member
  rw [Ty.qualify_eq] at same
  rw [body, cut] at reads
  refine ⟨declared, list, last, cursor, same, reads, ?_⟩
  rw [reads.iff_of_texts]
  refine and_congr ?_ ?_
  · simp only [List.length_map, List.length_append, List.length_dropLast, List.length_singleton]
    omega
  · constructor
    · intro agree i a place untyped
      have found := agree i a.text (by rw [List.getElem?_map, place]; rfl) untyped
      rw [List.getElem?_append] at found
      split at found
      · rwa [List.getElem?_map, Option.map_eq_some_iff] at found
      · -- The last text has a bracket that it does not open, so it is no text of an argument.
        exact absurd (List.mem_singleton.mp (List.mem_of_getElem? found)) (other a)
    · intro agree i text place untyped
      rw [List.getElem?_map, Option.map_eq_some_iff] at place
      obtain ⟨a, place, rfl⟩ := place
      obtain ⟨a', place', same⟩ := agree i a place untyped
      rw [List.getElem?_append_left (by simpa using (List.getElem?_eq_some_iff.mp place').1),
        List.getElem?_map, place', ← same]
      rfl

/-- A template with a member template, and a type that gives the member an argument. -/
def nested : Snapshot where
  cursors := #[
    { kind := .translationUnit, spelling := "tu.cpp", entity := ⟨"tu"⟩ },
    { kind := .classTemplate, spelling := "Outer", entity := ⟨"Outer"⟩ },
    { kind := .classTemplate, spelling := "Inner", entity := ⟨"Outer::Inner"⟩ },
    { kind := .varDecl, spelling := "inner", entity := ⟨"inner"⟩ }]
  types := #[
    { kind := .bool, spelling := "bool" },
    { kind := .elaborated, spelling := "Outer<short, char>::Inner<bool>",
      declaration := some (.afterCount 2), arguments := some [some (.afterCount 0)] }]

def innerText : InstantiationText where
  before := .none
  frontPad := .space
  name := "Outer".toList
  body := "short, char>::Inner<bool".toList
  backPad := .none
  after := .none
  nonempty := by decide
  plain := by decide
  visible := by decide
  apart := by decide
  bare q := by cases q <;> decide
  untagged := by decide

def shortArgument : Spelling.ArgumentText where
  text := "short".toList
  nonempty := by decide
  trimmed := by decide
  nested := by decide
  closed := by decide
  covered := by decide

def charArgument : Spelling.ArgumentText where
  text := "char".toList
  nonempty := by decide
  trimmed := by decide
  nested := by decide
  closed := by decide
  covered := by decide

def boolArgument : Spelling.ArgumentText where
  text := "bool".toList
  nonempty := by decide
  trimmed := by decide
  nested := by decide
  closed := by decide
  covered := by decide

theorem spelledAsMember_nested : ∃ facts, nested.frontend.SpelledAsMember
    ⟨.afterCount 3, .afterCount 1⟩ facts (.afterCount 2) innerText
    [shortArgument, charArgument] [boolArgument] ">::Inner<bool".toList :=
  ⟨_, {
    known := rfl
    spelled := rfl
    foreign := rfl
    scope := ⟨"short, char".toList, rfl, .comma .none shortArgument .none (List.cons_ne_nil _ _)
      (.last .space charArgument .none)⟩
    member := .member "::Inner".toList (by decide) (.last .none boolArgument .none)
    declared := ⟨.afterCount 2, rfl, rfl⟩
    counted := ⟨0, rfl⟩ }⟩

/-- The member that is named by its scope, with an argument for each of the scope's. -/
def inner : Ty :=
  .ofNode (.instantiation ⟨⟨"Outer::Inner"⟩, "Outer"⟩ (.exposed [.type (.ofBuiltin .bool),
    .expr (.unexposed (.unexposed "char>::Inner<bool")
      ["char", ">", "::", "Inner", "<", "bool"])]))

theorem instantiationAt_nested :
    (nested.frontend.instantiationAt (nested.frontend.builder 2)
      ⟨.afterCount 3, .afterCount 1⟩).outcome = .ok (some inner) := rfl

theorem instantiation_of_member_iff_nested :
    ∃ facts, nested.frontend.SpelledAsMember ⟨.afterCount 3, .afterCount 1⟩ facts (.afterCount 2)
        innerText [shortArgument, charArgument] [boolArgument] ">::Inner<bool".toList ∧
      ∃ declared list last, nested.frontend.cursor? (.afterCount 2) = some declared ∧
        some inner = some (Ty.ofNode (.instantiation ⟨declared.entity, "Outer"⟩ (.exposed list))) ∧
        ReadsArguments (nested.frontend.builder 2) (.afterCount 2) facts
          ["short".toList, last ++ ">::Inner<bool".toList] list ∧
        ¬ ReadsArguments (nested.frontend.builder 2) (.afterCount 2) facts ["bool".toList] list := by
  obtain ⟨facts, member⟩ := spelledAsMember_nested
  obtain ⟨declared, list, last, cursor, same, reads, own⟩ :=
    instantiation_of_member_iff member instantiationAt_nested
  exact ⟨facts, member, declared, list, last, cursor, same, reads,
    fun kept => absurd (own.mp kept).1 (by decide)⟩

/-- The arguments of a type that is spelled as a member are those of the member. -/
def KeepsMemberArguments (fe : Frontend) : Prop :=
  ∀ {sub : Builder} {site : Site} {facts : TypeFacts} {template : Cursor}
    {written : InstantiationText} {args members : List Spelling.ArgumentText} {rest : List Char}
    {answer : Option Ty}, fe.SpelledAsMember site facts template written args members rest →
    (fe.instantiationAt sub site).outcome = .ok answer →
    ∃ ref list, answer = some ((Ty.ofNode (.instantiation ref (.exposed list))).wrapped written.cv) ∧
      ReadsArguments sub template facts (members.map (·.text)) list

theorem not_keepsMemberArguments_nested : ¬ nested.frontend.KeepsMemberArguments := by
  intro keeps
  obtain ⟨facts, member⟩ := spelledAsMember_nested
  obtain ⟨ref, list, same, reads⟩ := keeps member instantiationAt_nested
  cases same
  exact absurd reads.length (by decide)

end CxxTrees.Frontend
