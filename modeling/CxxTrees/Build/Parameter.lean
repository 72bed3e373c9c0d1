import CxxTrees.Build.Site
import CxxTrees.Tree.Basic

/-!
# Template parameters

A name inside of a template may be one of its parameters. For a type parameter,
the innermost template around the name is asked first, and then the templates
around that.
-/

namespace CxxTrees

namespace Frontend
variable (fe : Frontend)

/-- The name of a template parameter: that of its type, or its own. -/
def parameterName (c : Cursor) : Except Stop (List Char) := do
  let facts ← fe.cursor c
  match facts.type with
  | some type => fe.spellingAt ⟨c, type⟩
  | none => return facts.spelling.toList

/-- Whether a cursor is a type parameter called `name`. -/
def namesTypeParameter (name : List Char) (c : Cursor) : Except Stop Bool := do
  if (← fe.cursor c).kind ≠ .templateTypeParameter then return false
  return (← fe.parameterName c) = name

/-- Whether a cursor is a template template parameter called `name`. -/
def namesTemplateParameter (name : List Char) (c : Cursor) : Except Stop Bool := do
  let facts ← fe.cursor c
  return facts.kind = .templateTemplateParameter ∧ facts.spelling.toList = name

/-- The cursor that `isOne` holds of, besides the one that was found already.
To find a second one is a fault. -/
def onlyAmong (isOne : Cursor → Except Stop Bool) (fault : Fault) :
    (found : Option Cursor) → List Cursor → Except Stop (Option Cursor)
  | found, [] => .ok found
  | found, c :: cs => do
    if !(← isOne c) then onlyAmong isOne fault found cs
    else if found.isSome then throw (.fault fault)
    else onlyAmong isOne fault (some c) cs

/-- The child of a cursor that `isOne` holds of. -/
def onlyChild (isOne : Cursor → Except Stop Bool) (fault : (parent : String) → Fault) (c : Cursor) :
    Except Stop (Option Cursor) := do
  let facts ← fe.cursor c
  onlyAmong isOne (fault facts.spelling) none facts.children

/-- The type parameter called `name` that a template declares. -/
def typeParameter (template : Cursor) (name : List Char) : Except Stop (Option Cursor) :=
  fe.onlyChild (fe.namesTypeParameter name) (.ambiguousTemplateParameter (String.ofList name))
    template

/-- The template template parameter called `name` that a cursor declares. -/
def templateParameter (scope : Cursor) (name : List Char) : Except Stop (Option Cursor) :=
  fe.onlyChild (fe.namesTemplateParameter name)
    (.ambiguousTemplateTemplateParameter (String.ofList name)) scope

/-- The spelling at a site as a type parameter of `template`. -/
def parameterOf (site : Site) (template : Cursor) : Except Stop (Option Ty) := do
  let (cv, name) ← fe.leafAt site
  match ← fe.typeParameter template name with
  | none => return none
  | some parameter =>
    let declaration : DeclRef := ⟨(← fe.cursor parameter).entity, String.ofList name⟩
    return some ((Ty.ofNode (.templateParameter declaration)).qualify cv)

def parameterWithin (type : TypeHandle) : Nat → Cursor → Except Stop (Option Ty)
  | 0, _ => .error .endless
  | limit + 1, scope => do
    match ← fe.templateAround scope with
    | none => return none
    | some template =>
      match ← fe.parameterOf ⟨scope, type⟩ template with
      | some parameter => return some parameter
      | none =>
        match (← fe.cursor template).semanticParent with
        | none => return none
        | some parent => parameterWithin type limit parent

/-- The type at a site as a type parameter of a template around it. -/
def parameterAt (site : Site) : Except Stop (Option Ty) :=
  fe.parameterWithin site.type fe.climbLimit site.cursor

end Frontend

end CxxTrees
