import CxxTrees.Build.Parameter
import CxxTrees.Spelling.Arguments
import CxxTrees.Text.Decimal
import CxxTrees.Token.Text
import CxxTrees.Tree.Basic

/-!
# Template instantiations

A spelling such as `Name<arguments>` is read as an instantiation if the name
refers to a template. The spelling says how many arguments there are, because
the frontend counts default arguments and packs in its own way; the frontend
says what type an argument is, where it is one.
-/

namespace CxxTrees
open Text

/-- How the types inside of a type are built. -/
structure BuilderIn (m : Type → Type) where
  node : Site → m (Option Ty)
  instantiation : Site → m (Option Ty)

/-- How they are built outside of any run. -/
abbrev Builder := BuilderIn Build

/-- The text in front of the first opening angle bracket, and the text behind it. -/
def splitName : List Char → Option (List Char × List Char)
  | [] => none
  | c :: cs => if c = '<' then some ([], cs) else (splitName cs).map fun p => (c :: p.1, p.2)

/-- The text in front of a closing angle bracket at the end. -/
def withoutClosing (s : List Char) : Option (List Char) := Spelling.before? ['>'] (trimEnd s)

namespace Frontend
variable (fe : Frontend)

/-- The template that a declaration is or was made from, if it has template arguments. -/
def templateOfDeclaration (declaration : Cursor) : Except Stop (Option Cursor) := do
  let facts ← fe.cursor declaration
  let count ← match facts.type with
    | none => pure 0
    | some type => pure ((← fe.type type).argumentCount.getD 0)
  return if count > 0 ∨ facts.kind.isDirectlyTemplated then
    some (facts.specializedTemplate.getD declaration)
  else none

/-- The template that `name` refers to in an instantiation at a site. -/
def templateAt (site : Site) (name : List Char) : Except Stop (Option Cursor) := do
  let declared ← match (← fe.type site.type).declaration with
    | none => pure none
    | some declaration => fe.templateOfDeclaration declaration
  match declared with
  | some template => return some template
  | none => fe.templateParameter site.cursor name

/-- An argument that is not known to be a type: a number or just tokens. -/
def argumentOfText (text : List Char) : Argument :=
  let spelling := String.ofList text
  .expr <|
    if (readUnsigned? text).isSome then .literal (.unexposed spelling) spelling
    else .unexposed (.unexposed spelling) (Token.ofText text)

section
variable {m : Type → Type} [Monad m] [MonadLift (Except Stop) m]

/-- The argument of `type` at an index. Its type is looked at from the template. -/
def argumentAt (sub : BuilderIn m) (template : Cursor) (type : TypeHandle) (index : Nat)
    (text : List Char) : m Argument := do
  let built ← match (← fe.type type).argument index with
    | none => pure none
    | some argument =>
      match ← sub.instantiation ⟨template, argument⟩ with
      | some instantiation => pure (some instantiation)
      | none => sub.node ⟨template, argument⟩
  return match built with
  | some t => if t.isBlankUnexposed then argumentOfText text else .type t
  | none => argumentOfText text

def argumentsFrom (sub : BuilderIn m) (template : Cursor) (type : TypeHandle) (index : Nat) :
    List (List Char) → m (List Argument)
  | [] => return []
  | text :: texts => do
    let argument ← fe.argumentAt sub template type index text
    return argument :: (← argumentsFrom sub template type (index + 1) texts)

/-- The type at a site as an instantiation. -/
def instantiationAt (sub : BuilderIn m) (site : Site) : m (Option Ty) := do
  let (cv, spelling) ← fe.leafAt site
  let some (name, tail) := splitName spelling | return none
  let some template ← fe.templateAt site name | return none
  let some body := withoutClosing tail | return none
  let arguments ← match (← fe.type site.type).argumentCount with
    | some (_ + 1) =>
      pure (.exposed (← fe.argumentsFrom sub template site.type 0 (Spelling.arguments body)))
    | _ => pure (.raw (String.ofList (trimEnd body)))
  let declaration : DeclRef := ⟨(← fe.cursor template).entity, String.ofList name⟩
  return some ((Ty.ofNode (.instantiation declaration arguments)).qualify cv)

end

end Frontend

end CxxTrees
