import CxxTrees.Snapshot.Document
import CxxTrees.Token.Text
import CxxTrees.Tree.Basic

/-!
# Trees as documents

A tree is written with the variant of each node as the name of a field, and
without canonical forms. Tokens are written as text.
-/

namespace CxxTrees
open Document

def Cv.toDocument (cv : Cv) : Document :=
  .text (String.intercalate " | "
    ((if cv.isConst then ["CONST"] else []) ++ (if cv.isVolatile then ["VOLATILE"] else [])))

def DeclRef.toDocument (d : DeclRef) : Document :=
  .object [("id", d.id.toDocument), ("name", .text d.name)]

def Call.toDocument (call : Call) : Document :=
  .object [
    ("caller_id", ofOption EntityId.toDocument call.caller),
    ("caller_method_id", ofOption EntityId.toDocument call.callerMethod),
    ("callee_id", call.callee.toDocument),
    ("callee_method_id", call.calleeMethod.toDocument)]

/-- The fields of a variant, under its name. -/
def Document.variant (name : String) (fields : List (String × Document)) : Document :=
  .object [(name, .object fields)]

def ExprBody.toDocument : ExprBody → Document
  | .literal value => variant "Literal" [("value", .text value)]
  | .unexposed tokens => variant "Unexposed" [("tokens", .text (Token.toText tokens))]
  | .call c => .object [("MemberFunctionCall", c.toDocument)]

def RefKind.isRvalue (kind : RefKind) : Bool := kind == .rvalue

mutual

def Ty.toDocument : Ty → Document
  | .mk node _ => node.toDocument
termination_by structural t => t

def Node.toDocument : Node → Document
  | .builtin kind => .object [("Builtin", .text kind.name)]
  | .pointer pointee => variant "Pointer" [("pointee", pointee.toDocument)]
  | .reference referee kind =>
    variant "Reference" [("referee", referee.toDocument), ("is_rvalue", .bool kind.isRvalue)]
  | .qualified inner cv => variant "CvQualified" [("inner", inner.toDocument), ("cv", cv.toDocument)]
  | .array element size =>
    variant "Array" [("element", element.toDocument), ("size", Expr.sizeToDocument size)]
  | .function result parameters isVariadic =>
    variant "Function" [("result", result.toDocument),
      ("parameters", .list (Ty.listToDocuments parameters)), ("is_variadic", .bool isVariadic)]
  | .memberObject ofClass value =>
    variant "MemberObject" [("class_type", ofClass.toDocument), ("value_type", value.toDocument)]
  | .memberFunction ofClass result parameters isVariadic =>
    variant "MemberFunction" [("class_type", ofClass.toDocument), ("result", result.toDocument),
      ("parameters", .list (Ty.listToDocuments parameters)), ("is_variadic", .bool isVariadic)]
  | .templateParameter parameter => .object [("TemplateParameter", parameter.toDocument)]
  | .instantiation template arguments =>
    variant "TemplateInstantiation"
      [("template", template.toDocument), ("arguments", arguments.toDocument)]
  | .userDefined declaration => .object [("UserDefined", declaration.toDocument)]
  | .decltype operand => variant "Decltype" [("operand", operand.toDocument)]
  | .auto => .text "Auto"
  | .unexposed spelling => variant "Unexposed" [("spelling", .text spelling)]
termination_by structural n => n

def Ty.listToDocuments : List Ty → List Document
  | [] => []
  | t :: ts => t.toDocument :: Ty.listToDocuments ts
termination_by structural ts => ts

def Expr.toDocument : Expr → Document
  | .mk type body => .object [("ty", type.toDocument), ("kind", body.toDocument)]
termination_by structural e => e

def Expr.sizeToDocument : Option Expr → Document
  | none => .null
  | some e => e.toDocument
termination_by structural e => e

def Arguments.toDocument : Arguments → Document
  | .exposed as => .object [("Exposed", .list (Argument.listToDocuments as))]
  | .raw s => .object [("Unexposed", .text s)]
termination_by structural a => a

def Argument.listToDocuments : List Argument → List Document
  | [] => []
  | a :: as => a.toDocument :: Argument.listToDocuments as
termination_by structural as => as

def Argument.toDocument : Argument → Document
  | .type t => .object [("Type", t.toDocument)]
  | .expr e => .object [("Expr", e.toDocument)]
termination_by structural a => a

end

end CxxTrees
