import CxxTrees.Entity
import CxxTrees.Fault
import CxxTrees.Qualifier
import CxxTrees.Tree.Builtin

/-!
# Type and expression trees

A type is a node and, where it was computed, its canonical form. Arrays,
decltype and template arguments hold expressions, which have types themselves.
Declarations are named by id and are no part of a tree.
-/

namespace CxxTrees

/-- An expression apart from its type: the text of a literal, the tokens of
what was not read any further, or a call. -/
inductive ExprBody where
  | literal (value : String)
  | unexposed (tokens : List String)
  | call (call : Call)
deriving DecidableEq

mutual

inductive Ty where
  | mk (node : Node) (canonical : Option Ty)

inductive Node where
  | builtin (kind : Builtin)
  | pointer (pointee : Ty)
  | reference (referee : Ty) (kind : RefKind)
  | qualified (inner : Ty) (cv : Cv)
  | array (element : Ty) (size : Option Expr)
  | function (result : Ty) (parameters : List Ty) (isVariadic : Bool)
  | memberObject (ofClass value : Ty)
  | memberFunction (ofClass result : Ty) (parameters : List Ty) (isVariadic : Bool)
  | templateParameter (parameter : DeclRef)
  | instantiation (template : DeclRef) (arguments : Arguments)
  | userDefined (declaration : DeclRef)
  | decltype (operand : Expr)
  | auto
  | unexposed (spelling : String)

inductive Expr where
  | mk (type : Ty) (body : ExprBody)

/-- The arguments of an instantiation, or their text where they are not known one by one. -/
inductive Arguments where
  | exposed (list : List Argument)
  | raw (text : String)

inductive Argument where
  | type (type : Ty)
  | expr (expr : Expr)

end

namespace Expr

def type : Expr → Ty
  | .mk type _ => type

def body : Expr → ExprBody
  | .mk _ body => body

def literal (type : Ty) (value : String) : Expr := .mk type (.literal value)

def unexposed (type : Ty) (tokens : List String) : Expr := .mk type (.unexposed tokens)

def call? (e : Expr) : Option Call :=
  match e.body with
  | .call call => some call
  | _ => none

end Expr

namespace Node

def nodeClass : Node → NodeClass
  | builtin _ => .builtin
  | pointer _ => .pointer
  | reference _ _ => .reference
  | qualified _ _ => .qualified
  | array _ _ => .array
  | function _ _ _ => .function
  | memberObject _ _ => .memberObject
  | memberFunction _ _ _ _ => .memberFunction
  | templateParameter _ => .templateParameter
  | instantiation _ _ => .instantiation
  | userDefined _ => .userDefined
  | decltype _ => .decltype
  | auto => .auto
  | unexposed _ => .unexposed

end Node

namespace Ty

def node : Ty → Node
  | .mk node _ => node

def canonical : Ty → Option Ty
  | .mk _ canonical => canonical

/-- A type without a canonical form yet. -/
def ofNode (node : Node) : Ty := .mk node none

def ofBuiltin (kind : Builtin) : Ty := ofNode (.builtin kind)

def unexposed (spelling : String) : Ty := ofNode (.unexposed spelling)

/-- The type with qualifiers around it, if there are any. -/
def qualify (inner : Ty) (cv : Cv) : Ty :=
  if cv.isEmpty then inner else ofNode (.qualified inner cv)

def nodeClass (t : Ty) : NodeClass := t.node.nodeClass

/-- The type without the qualifiers around it. -/
def unqualified (t : Ty) : Ty :=
  match t.node with
  | .qualified inner _ => inner
  | _ => t

/-- Whether this is text that was not read any further, and empty. -/
def isBlankUnexposed (t : Ty) : Bool :=
  match t.node with
  | .unexposed spelling => spelling == ""
  | _ => false

/-- The type with its canonical form, which is set only once. -/
def withCanonical (t canonical : Ty) : Except Fault Ty :=
  match t with
  | .mk node none => .ok (.mk node (some canonical))
  | .mk _ (some _) => .error .canonicalAlreadySet

end Ty

end CxxTrees
