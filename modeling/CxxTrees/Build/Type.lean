import CxxTrees.Build.Instantiation
import CxxTrees.Build.Parameter
import CxxTrees.Build.Reading
import CxxTrees.Spelling.Bound

/-!
# Types

The tree of a type, built from what the frontend says of it and, where it says
nothing, from its spelling. The types inside of a type are built the same way;
`Frontend.builderIn` bounds how deep, and `Frontend.typeIn` adds the canonical
form to the whole. `Frontend.typeAt` is the same outside of any run.
-/

namespace CxxTrees

/-- The builtin type that a frontend reports under a kind of its own. -/
def TypeKind.builtin? : TypeKind → Option Builtin
  | .void => some .void
  | .bool => some .bool
  | .uchar => some .uchar
  | .ushort => some .ushort
  | .uint => some .uint
  | .ulong => some .ulong
  | .ulongLong => some .ulongLong
  | .uint128 => some .uint128
  | .schar => some .schar
  | .short => some .short
  | .int => some .int
  | .long => some .long
  | .longLong => some .longLong
  | .int128 => some .int128
  | .float => some .float
  | .double => some .double
  | .longDouble => some .longDouble
  | .float128 => some .float128
  | .charU | .charS => some .char
  | .wchar => some .wchar
  | .char16 => some .char16
  | .char32 => some .char32
  | .nullPtr => some .nullPtr
  | _ => none

namespace Frontend
variable (fe : Frontend) {m : Type → Type} [Monad m] [MonadLift (Except Stop) m] [MonadEvents m]

/-! ### Parts of a type -/

/-- The spelling of a type as the frontend has it. -/
def rawSpelling (t : TypeHandle) : Except Stop String :=
  return (← fe.type t).spelling

/-- A type inside of another, which must be valid. -/
def required (sub : BuilderIn m) (site : Site) : m Ty := do
  match ← sub.node site with
  | some t => return t
  | none => Build.fail (.invalidType (← fe.rawSpelling site.type))

/-- What a type points or refers to. -/
def pointeeAt (sub : BuilderIn m) (site : Site) : m Ty := do
  let facts ← fe.type site.type
  match ← fe.valid facts.pointee with
  | some pointee => fe.required sub { site with type := pointee }
  | none => Build.fail (.invalidType facts.spelling)

def parametersFrom (sub : BuilderIn m) (site : Site) (facts : TypeFacts) (index : Nat) :
    (count : Nat) → m (List Ty)
  | 0 => return []
  | count + 1 => do
    match facts.parameter index with
    | none => Build.fail (.invalidArgumentCount facts.spelling index)
    | some parameter =>
      let t ← fe.required sub { site with type := parameter }
      return t :: (← parametersFrom sub site facts (index + 1) count)

/-- The parameters of a function type, in order, and whether more may follow. -/
def parametersAt (sub : BuilderIn m) (site : Site) : m (List Ty × Bool) := do
  let facts ← fe.type site.type
  match facts.parameterCount with
  | none => Build.fail (.invalidArgumentCount facts.spelling 0)
  | some count => return (← fe.parametersFrom sub site facts 0 count, facts.isVariadic)

/-- The size of an array: its extent, or else the tokens of the bound it is spelled with. -/
def sizeAt (site : Site) : Except Stop (Option Expr) := do
  let size := Ty.ofBuiltin .ulongLong
  match (← fe.type site.type).arraySize with
  | some extent => return some (.literal size (toString extent.toNat))
  | none =>
    match Spelling.boundOf (← fe.spellingAt site) with
    | .error fault => throw (.fault fault)
    | .ok [] => return none
    | .ok bound => return some (.unexposed size (Token.ofText bound))

/-! ### Readings of a type -/

/-- The type at a site as a declared class, enum or typedef. Without a name the
declaration goes unnamed in the tree too. -/
def userDefinedAt (site : Site) : Except Stop Ty := do
  let (cv, name) ← fe.leafAt site
  match (← fe.type site.type).declaration with
  | none => return .unexposed (String.ofList (← fe.spellingAt site))
  | some declaration =>
    let facts ← fe.cursor declaration
    let name := if facts.spelling = "" then "" else String.ofList name
    return (Ty.ofNode (.userDefined ⟨facts.entity, name⟩)).qualify cv

def functionAt (sub : BuilderIn m) (site : Site) : m (Option Ty) := do
  match ← fe.valid (← fe.type site.type).result with
  | none => return none
  | some result =>
    let result ← fe.required sub { site with type := result }
    let (parameters, isVariadic) ← fe.parametersAt sub site
    return some (.ofNode (.function result parameters isVariadic))

/-- The element of an array. A typedef may hide it, but its canonical form does not. -/
def elementAt (t : TypeHandle) : Except Stop (Option TypeHandle) := do
  let facts ← fe.type t
  match ← fe.valid facts.element with
  | some element => return some element
  | none => fe.valid (← fe.type facts.canonical).element

def arrayAt (sub : BuilderIn m) (site : Site) : m (Option Ty) := do
  match ← fe.elementAt site.type with
  | none => return none
  | some element =>
    let canonical := (← fe.type site.type).canonical
    let size ← fe.sizeAt { site with type := canonical }
    let element ← fe.required sub { site with type := element }
    return some (.ofNode (.array element size))

/-- The operand of a decltype, if a name is spelled as one. An ellipsis behind
it is part of a pack expansion. -/
def decltypeOperand? (name : List Char) : Except Fault (Option (List Char)) :=
  match Spelling.takeFront "decltype(".toList false name with
  | none => .ok none
  | some operand =>
    let operand := (Spelling.takeBack "...".toList false operand).getD operand
    match Spelling.before? [')'] operand with
    | some operand => .ok (some operand)
    | none =>
      .error (.malformedSpelling (String.ofList name) "decltype spelling must end in ')'")

/-- The type at a site as a decltype; there is none at an expression. -/
def decltypeAt (site : Site) : Except Stop (Option Ty) := do
  if (← fe.cursor site.cursor).kind.isExpression then return none
  let (cv, name) ← fe.leafAt site
  match decltypeOperand? name with
  | .error fault => throw (.fault fault)
  | .ok none => return none
  | .ok (some operand) =>
    let operand := Expr.unexposed (.unexposed "<decltype>") (Token.ofText operand)
    return some ((Ty.ofNode (.decltype operand)).qualify cv)

/-- The readings of a type that the frontend does not expose, in order. -/
def readings (sub : BuilderIn m) : List (Reading m Site Ty) :=
  [⟨"function", fe.functionAt sub⟩, ⟨"array", fe.arrayAt sub⟩,
    ⟨"decltype", fun site => liftM (fe.decltypeAt site)⟩,
    ⟨"instantiation", fe.instantiationAt sub⟩,
    ⟨"template parameter", fun site => liftM (fe.parameterAt site)⟩]

/-- The type at a site by the first reading that works, or else its text. -/
def unexposedAt (sub : BuilderIn m) (site : Site) : m Ty := do
  match ← firstReading (fun name => MonadEvents.emit (.reading name)) site (fe.readings sub) with
  | some t => return t
  | none => return .unexposed (String.ofList (← fe.spellingAt site))

/-- What a member pointer points to. The qualifiers behind it are those of the class. -/
def memberAt (sub : BuilderIn m) (site : Site) : m Ty := do
  let spelling ← fe.spellingAt site
  let (ref?, rest) := Spelling.trailingRef spelling
  let cv := (Spelling.trailingCv rest).1
  let facts ← fe.type site.type
  let some ofClass ← fe.valid facts.ofClass
    | Build.fail (.invalidType (String.ofList spelling))
  let ofClass := (← fe.required sub { site with type := ofClass }).qualify cv
  let ofClass := match ref? with
    | some kind => Ty.ofNode (.reference ofClass kind)
    | none => ofClass
  let some pointee ← fe.valid facts.pointee
    | Build.fail (.invalidType (String.ofList spelling))
  let site := { site with type := pointee }
  match ← fe.valid (← fe.type pointee).result with
  | none => return .ofNode (.memberObject ofClass (← fe.required sub site))
  | some result =>
    let result ← fe.required sub { site with type := result }
    let (parameters, isVariadic) ← fe.parametersAt sub site
    return .ofNode (.memberFunction ofClass result parameters isVariadic)

/-- The warning that a type is of a kind the trees have no node for. -/
def warnUnmodelled (site : Site) (kind : TypeKind) : m Unit := do
  let facts ← fe.cursor site.cursor
  MonadEvents.emit <| .report {
    source := reportSource
    severity := .warning
    message := "unexpected type '" ++ facts.spelling ++ "' of kind '" ++ kind.name ++ "'"
    location := facts.location }

/-! ### Whole types -/

/-- One type without its canonical form; nothing for an invalid type. -/
def nodeAt (sub : BuilderIn m) (site : Site) : m (Option Ty) := do
  let facts ← fe.type site.type
  match facts.kind.builtin? with
  | some kind => return some ((Ty.ofBuiltin kind).qualify (← fe.leafAt site).1)
  | none =>
    match facts.kind with
    | .invalid => return none
    | .unexposed | .dependent => return some (← fe.unexposedAt sub site)
    | .elaborated =>
      match ← fe.instantiationAt sub site with
      | some t => return some t
      | none => return some (← fe.userDefinedAt site)
    | .record | .enum | .typedef => return some (← fe.userDefinedAt site)
    | .pointer =>
      let pointee ← fe.pointeeAt sub site
      let cv := (Spelling.trailingCv (← fe.spellingAt site)).1
      return some ((Ty.ofNode (.pointer pointee)).qualify cv)
    | .lvalueReference => return some (.ofNode (.reference (← fe.pointeeAt sub site) .lvalue))
    | .rvalueReference => return some (.ofNode (.reference (← fe.pointeeAt sub site) .rvalue))
    | .incompleteArray | .variableArray | .dependentSizedArray | .constantArray =>
      fe.arrayAt sub site
    | .functionNoProto | .functionProto =>
      match ← fe.functionAt sub site with
      | some t => return some t
      | none => Build.fail (.missingResultType facts.spelling)
    | .memberPointer => return some (.ofNode (.pointer (← fe.memberAt sub site)))
    | .auto =>
      if facts.canonical = site.type ∨ (← fe.type facts.canonical).kind = .auto then
        return some ((Ty.ofNode .auto).qualify (← fe.leafAt site).1)
      else sub.node { site with type := facts.canonical }
    | .vector | .blockPointer | .atomic | .attributed | .objCObjectPointer =>
      fe.warnUnmodelled site facts.kind
      return some (← fe.unexposedAt sub site)
    | _ => return some (.unexposed (String.ofList (← fe.spellingAt site)))

/-- Builds types that lie inside of each other at most `depth` deep. -/
def builderIn (m : Type → Type) [Monad m] [MonadLift (Except Stop) m] [MonadEvents m] :
    (depth : Nat) → BuilderIn m
  | 0 => ⟨fun _ => Build.stop .endless, fun _ => Build.stop .endless⟩
  | depth + 1 =>
    ⟨fun site => fe.nodeAt (builderIn m depth) site,
      fun site => fe.instantiationAt (builderIn m depth) site⟩

/-- The depth that a type can reach before a site comes back on its way inwards. -/
def typeLimit : Nat := 4 * (fe.typeCount + 1) * (fe.cursorCount + 1)

/-- The canonical form of a type that was built as `declared`. A type that may
be an instantiation is read as one first, since its canonical form is one too. -/
def canonicalWith (sub : BuilderIn m) (site : Site) (declared : Ty) : m Ty := do
  let canonical := { site with type := (← fe.type site.type).canonical }
  if canonical.type = site.type then return declared
  match declared.nodeClass with
  | .instantiation | .userDefined =>
    match ← sub.instantiation canonical with
    | some t => return t
    | none => fe.required sub canonical
  | _ => fe.required sub canonical

def typeWith (sub : BuilderIn m) (site : Site) : m Ty := do
  let declared ← fe.required sub site
  if declared.canonical.isSome then return declared
  let canonical ← fe.canonicalWith sub site declared
  if declared.nodeClass = .instantiation ∧ canonical.nodeClass ≠ .instantiation then
    Build.fail (.canonicalKindMismatch (← fe.rawSpelling site.type) canonical.nodeClass)
  else
    match declared.withCanonical canonical with
    | .ok t => return t
    | .error fault => Build.fail fault

/-- A type with its canonical form, which is an instantiation if the type is. -/
def typeIn (m : Type → Type) [Monad m] [MonadLift (Except Stop) m] [MonadEvents m] (site : Site) :
    m Ty :=
  fe.typeWith (fe.builderIn m fe.typeLimit) site

/-! ### Types by themselves -/

def builder : (depth : Nat) → Builder := fe.builderIn Build

def typeBuilder : Builder := fe.builder fe.typeLimit

def canonicalAt (site : Site) (declared : Ty) : Build Ty :=
  fe.canonicalWith fe.typeBuilder site declared

def typeAt (site : Site) : Build Ty := fe.typeWith fe.typeBuilder site

end Frontend

end CxxTrees
