import CxxTrees.Proofs.Build.Instantiation
import CxxTrees.Proofs.Build.Parts
import CxxTrees.Proofs.Spelling.Instantiation
import CxxTrees.Proofs.Spelling.Joined
import CxxTrees.Snapshot.Basic

/-!
# Arguments of an instantiation

The text of an instantiation says how many arguments it has, and the frontend says which
types they are. Index by index the two are put together: an argument is its type if the
frontend has one that is built, and else it is read from its own piece of the text
(`instantiation_of_lists`).
-/

namespace CxxTrees.Frontend
open Text
variable {fe : Frontend} {sub : Builder} {site : Site} {template : Cursor} {facts : TypeFacts}
  {type : TypeHandle} {handle : Option TypeHandle} {cv : Cv}
  {spelling name tail body text : List Char} {argument : Argument}

/-! ### An instantiation in three steps -/

/-- The arguments in a text, one by one if the frontend counts any. -/
def argumentsOf (fe : Frontend) (sub : Builder) (template : Cursor) (type : TypeHandle)
    (body : List Char) : Build Arguments := do
  match (← fe.type type).argumentCount with
  | some (_ + 1) =>
    return .exposed (← fe.argumentsFrom sub template type 0 (Spelling.arguments body))
  | _ => return .raw (String.ofList (trimEnd body))

/-- A type that is spelled with a name and a text in brackets is an instantiation as soon as the
name refers to a template: its arguments are built, and then its declaration is looked up. -/
theorem instantiationAt_of_split (spelled : fe.leafAt site = .ok (cv, spelling))
    (split : splitName spelling = some (name, tail)) (closed : withoutClosing tail = some body) :
    fe.instantiationAt sub site = do
      match ← fe.templateAt site name with
      | none => return none
      | some template =>
        let arguments ← fe.argumentsOf sub template site.type body
        let declaration : DeclRef := ⟨(← fe.cursor template).entity, String.ofList name⟩
        return some ((Ty.ofNode (.instantiation declaration arguments)).qualify cv) := by
  unfold instantiationAt
  rw [lift_bind_of_ok spelled]
  simp only [split]
  apply bind_congr
  intro found
  cases found with
  | none => rfl
  | some template =>
    simp only [closed, argumentsOf, bind_assoc]
    apply bind_congr
    intro facts
    cases facts.argumentCount with
    | none => simp only [pure_bind]
    | some count => cases count <;> simp only [bind_assoc, pure_bind]

theorem templateAt_of_declaration {d : Cursor} (known : fe.type? site.type = some facts)
    (declaration : facts.declaration = some d)
    (templated : fe.templateOfDeclaration d = .ok (some template)) (name : List Char) :
    fe.templateAt site name = .ok (some template) := by
  unfold templateAt
  rw [look_bind (type_of_known known)]
  simp only [declaration]
  rw [look_bind templated]
  rfl

/-- An instantiation has the qualifiers that it is spelled with. -/
theorem qualified_of_instantiationAt {t : Ty}
    (built : (fe.instantiationAt sub site).outcome = .ok (some t)) :
    ∃ cv spelling declaration arguments, fe.leafAt site = .ok (cv, spelling) ∧
      t = (Ty.ofNode (.instantiation declaration arguments)).qualify cv := by
  obtain ⟨⟨template, cv, spelling, name, tail, body, leaf, split, found, closed⟩, _⟩ :=
    instantiationAt_some built
  rw [instantiationAt_of_split leaf split closed, lift_bind_of_ok found] at built
  obtain ⟨arguments, _, built⟩ := Build.bind_ok built
  obtain ⟨declared, _, built⟩ := Build.bind_ok built
  exact ⟨cv, spelling, _, arguments, leaf, (Option.some.inj (Build.pure_ok built)).symm⟩

/-! ### One argument -/

/-- The type of an argument, which is an instantiation if it is spelled as one. -/
def argumentType (sub : Builder) (site : Site) : Build (Option Ty) := do
  match ← sub.instantiation site with
  | some t => return some t
  | none => sub.node site

/-- The frontend has no type for an argument, or one that is invalid or unexposed and blank. -/
def Untyped (sub : Builder) (template : Cursor) (handle : Option TypeHandle) : Prop :=
  ∀ h, handle = some h → ∃ answer, (argumentType sub ⟨template, h⟩).outcome = .ok answer ∧
    ∀ t, answer = some t → t.isBlankUnexposed = true

/-- What an argument is, given the type that the frontend has for it and its text. -/
inductive ReadsArgument (sub : Builder) (template : Cursor) (handle : Option TypeHandle)
    (text : List Char) : Argument → Prop where
  | type {h : TypeHandle} {t : Ty} (known : handle = some h)
      (built : (argumentType sub ⟨template, h⟩).outcome = .ok (some t))
      (visible : t.isBlankUnexposed = false) : ReadsArgument sub template handle text (.type t)
  | number (untyped : Untyped sub template handle) (number : (readUnsigned? text).isSome = true) :
      ReadsArgument sub template handle text
        (.expr (.literal (.unexposed (String.ofList text)) (String.ofList text)))
  | tokens (untyped : Untyped sub template handle) (other : readUnsigned? text = none) :
      ReadsArgument sub template handle text
        (.expr (.unexposed (.unexposed (String.ofList text)) (Token.ofText text)))

/-- What the arguments are, given the types that the frontend has and a text for each of them. -/
structure ReadsArguments (sub : Builder) (template : Cursor) (facts : TypeFacts)
    (texts : List (List Char)) (list : List Argument) : Prop where
  length : list.length = texts.length
  each : ∀ i argument, list[i]? = some argument → ∃ text, texts[i]? = some text ∧
    ReadsArgument sub template (facts.argument i) text argument

theorem readsArgument_ofText (untyped : Untyped sub template handle) :
    ReadsArgument sub template handle text (argumentOfText text) := by
  unfold argumentOfText
  cases number : readUnsigned? text with
  | none => exact .tokens untyped number
  | some n => exact .number untyped (Option.isSome_of_eq_some number)

theorem readsArgument_built (text : List Char) {a : TypeHandle} {answer : Option Ty}
    (built : (argumentType sub ⟨template, a⟩).outcome = .ok answer) :
    ReadsArgument sub template (some a) text (answer.elim (argumentOfText text)
      fun t => if t.isBlankUnexposed then argumentOfText text else .type t) := by
  have untyped (blank : ∀ t, answer = some t → t.isBlankUnexposed = true) :
      Untyped sub template (some a) := by
    intro h same
    cases same
    exact ⟨answer, built, blank⟩
  cases answer with
  | none => exact readsArgument_ofText (untyped nofun)
  | some t =>
    cases blank : t.isBlankUnexposed with
    | false => simpa [blank] using ReadsArgument.type rfl built blank
    | true =>
      have untyped : Untyped sub template (some a) := untyped fun t' same => by
        cases same
        exact blank
      simpa [blank] using readsArgument_ofText untyped

theorem argumentAt_ok {index : Nat} (known : fe.type? type = some facts)
    (h : (fe.argumentAt sub template type index text).outcome = .ok argument) :
    ReadsArgument sub template (facts.argument index) text argument := by
  unfold argumentAt at h
  rw [lift_bind_of_ok (type_of_known known)] at h
  cases handle : facts.argument index with
  | none =>
    simp only [handle, pure_bind] at h
    obtain rfl := Build.pure_ok h
    exact readsArgument_ofText nofun
  | some a =>
    simp only [handle] at h
    obtain ⟨found, instantiated, h⟩ := Build.bind_ok h
    have typed : (argumentType sub ⟨template, a⟩).outcome = _ :=
      (Build.outcome_bind _ _).trans (congrArg (· >>= _) instantiated)
    cases found with
    | some t =>
      simp only [pure_bind] at h
      obtain rfl := Build.pure_ok h
      exact readsArgument_built text typed
    | none =>
      obtain ⟨answer, node, h⟩ := Build.bind_ok h
      obtain rfl := Build.pure_ok h
      have reads := readsArgument_built text (typed.trans node)
      cases answer <;> exact reads

/-! ### All of them -/

theorem argumentsOf_counted {count : Nat} {arguments : Arguments}
    (known : fe.type? type = some facts) (counted : facts.argumentCount = some (count + 1))
    (h : (fe.argumentsOf sub template type body).outcome = .ok arguments) :
    ∃ list, arguments = .exposed list ∧
      ReadsArguments sub template facts (Spelling.arguments body) list := by
  unfold argumentsOf at h
  obtain ⟨facts', looked, h⟩ := Build.bind_ok h
  obtain rfl := Option.mem_unique known (type_ok looked)
  simp only [counted] at h
  obtain ⟨list, built, h⟩ := Build.bind_ok h
  obtain ⟨count, each⟩ := argumentsFrom_ok built
  refine ⟨list, (Build.pure_ok h).symm, ⟨count, fun i argument place => ?_⟩⟩
  obtain ⟨text, piece, built⟩ := each i argument place
  rw [Nat.zero_add] at built
  exact ⟨text, piece, argumentAt_ok known built⟩

/-- A type that is no typedef of the scope it is seen from goes by its own spelling. -/
theorem leafAt_of_text {written : InstantiationText} (known : fe.type? site.type = some facts)
    (spelled : facts.spelling = String.ofList written.text)
    (foreign : fe.isLocalTypedef site = .ok false) :
    fe.leafAt site = .ok (written.cv, written.core) := by
  have spelling : fe.spellingAt site = .ok written.text := by
    rw [spellingAt_eq known foreign, spelled, String.toList_ofList]
    rfl
  rw [leafAt, look_bind spelling, written.leaf_text]
  rfl

theorem instantiationAt_of_text {written : InstantiationText} {count : Nat} {answer : Option Ty}
    (known : fe.type? site.type = some facts)
    (spelled : facts.spelling = String.ofList written.text)
    (foreign : fe.isLocalTypedef site = .ok false)
    (resolved : fe.templateAt site written.name = .ok (some template))
    (counted : facts.argumentCount = some (count + 1))
    (built : (fe.instantiationAt sub site).outcome = .ok answer) :
    ∃ declared list, fe.cursor? template = some declared ∧
      answer = some ((Ty.ofNode (.instantiation ⟨declared.entity, String.ofList written.name⟩
        (.exposed list))).qualify written.cv) ∧
      ReadsArguments sub template facts (Spelling.arguments written.body) list := by
  rw [instantiationAt_of_split (leafAt_of_text known spelled foreign) written.splitName_core
    (withoutClosing_concat written.body), lift_bind_of_ok resolved] at built
  obtain ⟨arguments, each, built⟩ := Build.bind_ok built
  obtain ⟨declared, looked, built⟩ := Build.bind_ok built
  obtain ⟨list, rfl, reads⟩ := argumentsOf_counted known counted each
  exact ⟨declared, list, cursor_ok looked, (Build.pure_ok built).symm, reads⟩

/-- A spelling with arguments in it gives one argument for each of them, in their order, in an
instantiation of the template that the name refers to. Around that is a node for the qualifiers
that are written on its two sides, if there are any. -/
theorem instantiation_of_lists {written : InstantiationText} {args : List Spelling.ArgumentText}
    {count : Nat} {answer : Option Ty} (known : fe.type? site.type = some facts)
    (spelled : facts.spelling = String.ofList written.text)
    (foreign : fe.isLocalTypedef site = .ok false)
    (lists : Spelling.Lists args written.body) (some_ : args ≠ [])
    (resolved : fe.templateAt site written.name = .ok (some template))
    (counted : facts.argumentCount = some (count + 1))
    (built : (fe.instantiationAt sub site).outcome = .ok answer) :
    ∃ declared list, fe.cursor? template = some declared ∧
      answer = some ((Ty.ofNode (.instantiation ⟨declared.entity, String.ofList written.name⟩
        (.exposed list))).wrapped written.cv) ∧
      ReadsArguments sub template facts (args.map (·.text)) list := by
  obtain ⟨declared, list, cursor, same, reads⟩ :=
    instantiationAt_of_text known spelled foreign resolved counted built
  rw [Spelling.arguments_of_lists lists some_] at reads
  rw [Ty.qualify_eq] at same
  exact ⟨declared, list, cursor, same, reads⟩

/-- Two templates, and a type that gives the second of them an instantiation of the first, a
number and an expression. The frontend counts no more arguments than it knows the types of. -/
def pairs : Snapshot where
  cursors := #[
    { kind := .translationUnit, spelling := "tu.cpp", entity := ⟨"tu"⟩ },
    { kind := .classTemplate, spelling := "Box", entity := ⟨"Box"⟩ },
    { kind := .classTemplate, spelling := "Pair", entity := ⟨"Pair"⟩ },
    { kind := .varDecl, spelling := "pair", entity := ⟨"pair"⟩ }]
  types := #[
    { kind := .int, spelling := "int" },
    { kind := .elaborated, spelling := "Box<int>", declaration := some (.afterCount 1),
      arguments := some [some (.afterCount 0)] },
    { kind := .elaborated, spelling := "const Pair<Box<int>, 3 , N + 1>volatile",
      declaration := some (.afterCount 2), arguments := some [some (.afterCount 1)] }]

def pairText : InstantiationText where
  before := .one .const
  frontPad := .space
  name := "Pair".toList
  body := "Box<int>, 3 , N + 1".toList
  backPad := .none
  after := .one .volatile
  nonempty := by decide
  plain := by decide
  visible := by decide
  apart := by decide
  bare q := by cases q <;> decide
  untagged := by decide

def boxArgument : Spelling.ArgumentText where
  text := "Box<int>".toList
  nonempty := by decide
  trimmed := by decide
  nested := by decide
  closed := by decide
  covered := by decide

def numberArgument : Spelling.ArgumentText where
  text := "3".toList
  nonempty := by decide
  trimmed := by decide
  nested := by decide
  closed := by decide
  covered := by decide

def sumArgument : Spelling.ArgumentText where
  text := "N + 1".toList
  nonempty := by decide
  trimmed := by decide
  nested := by decide
  closed := by decide
  covered := by decide

theorem lists_pairText :
    Spelling.Lists [boxArgument, numberArgument, sumArgument] pairText.body :=
  .comma .none boxArgument .none (List.cons_ne_nil _ _)
    (.comma .space numberArgument .space (List.cons_ne_nil _ _) (.last .space sumArgument .none))

def pair : Ty :=
  .ofNode (.qualified
    (.ofNode (.instantiation ⟨⟨"Pair"⟩, "Pair"⟩ (.exposed [
      .type (.ofNode (.instantiation ⟨⟨"Box"⟩, "Box"⟩ (.exposed [.type (.ofBuiltin .int)]))),
      .expr (.literal (.unexposed "3") "3"),
      .expr (.unexposed (.unexposed "N + 1") ["N", "+", "1"])])))
    { isConst := true, isVolatile := true })

theorem instantiationAt_pairs :
    (pairs.frontend.instantiationAt (pairs.frontend.builder 2)
      ⟨.afterCount 3, .afterCount 2⟩).outcome = .ok (some pair) := rfl

theorem instantiation_of_lists_pairs :
    Spelling.Lists [boxArgument, numberArgument, sumArgument] pairText.body ∧
    (pairs.frontend.instantiationAt (pairs.frontend.builder 2)
      ⟨.afterCount 3, .afterCount 2⟩).outcome = .ok (some pair) ∧
    ∃ facts declared list, pairs.frontend.type? (.afterCount 2) = some facts ∧
      pairs.frontend.cursor? (.afterCount 2) = some declared ∧
      pair = .ofNode (.qualified
        (.ofNode (.instantiation ⟨declared.entity, "Pair"⟩ (.exposed list)))
        { isConst := true, isVolatile := true }) ∧
      ReadsArguments (pairs.frontend.builder 2) (.afterCount 2) facts
        ["Box<int>".toList, "3".toList, "N + 1".toList] list := by
  have spelled : "const Pair<Box<int>, 3 , N + 1>volatile" = String.ofList pairText.text := rfl
  obtain ⟨declared, list, cursor, same, reads⟩ :=
    instantiation_of_lists rfl spelled rfl lists_pairText (List.cons_ne_nil _ _) rfl rfl
      instantiationAt_pairs
  exact ⟨lists_pairText, instantiationAt_pairs, _, declared, list, rfl, cursor,
    Option.some.inj same, reads⟩

end CxxTrees.Frontend
