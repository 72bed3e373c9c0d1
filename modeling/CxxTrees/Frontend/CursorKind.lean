/-!
# Kinds of cursors

What a frontend says a cursor is: a scope, a declaration, a statement or an
expression, each with the name it has in a recorded table.
-/

namespace CxxTrees

inductive CursorKind where
  | translationUnit | «namespace»
  | classDecl | structDecl | unionDecl | enumDecl | classTemplate
  | classTemplatePartialSpecialization | typeAliasTemplateDecl | functionTemplate
  | functionDecl | cxxMethod | constructor | destructor | conversionFunction
  | templateTypeParameter | nonTypeTemplateParameter | templateTemplateParameter
  | typedefDecl | typeAliasDecl | varDecl | fieldDecl | parmDecl
  | compoundStmt | declStmt | returnStmt
  | callExpr | declRefExpr | memberRefExpr | overloadedDeclRef | characterLiteral
  | compoundLiteralExpr | floatingLiteral | imaginaryLiteral | integerLiteral
  | stringLiteral | cxxBoolLiteralExpr | cxxNullPtrLiteralExpr | unaryOperator
  | binaryOperator | unexposedExpr
  | other
deriving DecidableEq

namespace CursorKind

def all : List CursorKind :=
  [.translationUnit, .«namespace», .classDecl, .structDecl, .unionDecl, .enumDecl,
    .classTemplate, .classTemplatePartialSpecialization, .typeAliasTemplateDecl,
    .functionTemplate, .functionDecl, .cxxMethod, .constructor, .destructor,
    .conversionFunction, .templateTypeParameter, .nonTypeTemplateParameter,
    .templateTemplateParameter, .typedefDecl, .typeAliasDecl, .varDecl, .fieldDecl, .parmDecl,
    .compoundStmt, .declStmt, .returnStmt, .callExpr, .declRefExpr, .memberRefExpr,
    .overloadedDeclRef, .characterLiteral, .compoundLiteralExpr, .floatingLiteral,
    .imaginaryLiteral, .integerLiteral, .stringLiteral, .cxxBoolLiteralExpr,
    .cxxNullPtrLiteralExpr, .unaryOperator, .binaryOperator, .unexposedExpr, .other]

def name : CursorKind → String
  | .translationUnit => "TranslationUnit"
  | .«namespace» => "Namespace"
  | .classDecl => "ClassDecl"
  | .structDecl => "StructDecl"
  | .unionDecl => "UnionDecl"
  | .enumDecl => "EnumDecl"
  | .classTemplate => "ClassTemplate"
  | .classTemplatePartialSpecialization => "ClassTemplatePartialSpecialization"
  | .typeAliasTemplateDecl => "TypeAliasTemplateDecl"
  | .functionTemplate => "FunctionTemplate"
  | .functionDecl => "FunctionDecl"
  | .cxxMethod => "CxxMethod"
  | .constructor => "Constructor"
  | .destructor => "Destructor"
  | .conversionFunction => "ConversionFunction"
  | .templateTypeParameter => "TemplateTypeParameter"
  | .nonTypeTemplateParameter => "NonTypeTemplateParameter"
  | .templateTemplateParameter => "TemplateTemplateParameter"
  | .typedefDecl => "TypedefDecl"
  | .typeAliasDecl => "TypeAliasDecl"
  | .varDecl => "VarDecl"
  | .fieldDecl => "FieldDecl"
  | .parmDecl => "ParmDecl"
  | .compoundStmt => "CompoundStmt"
  | .declStmt => "DeclStmt"
  | .returnStmt => "ReturnStmt"
  | .callExpr => "CallExpr"
  | .declRefExpr => "DeclRefExpr"
  | .memberRefExpr => "MemberRefExpr"
  | .overloadedDeclRef => "OverloadedDeclRef"
  | .characterLiteral => "CharacterLiteral"
  | .compoundLiteralExpr => "CompoundLiteralExpr"
  | .floatingLiteral => "FloatingLiteral"
  | .imaginaryLiteral => "ImaginaryLiteral"
  | .integerLiteral => "IntegerLiteral"
  | .stringLiteral => "StringLiteral"
  | .cxxBoolLiteralExpr => "CxxBoolLiteralExpr"
  | .cxxNullPtrLiteralExpr => "CxxNullPtrLiteralExpr"
  | .unaryOperator => "UnaryOperator"
  | .binaryOperator => "BinaryOperator"
  | .unexposedExpr => "UnexposedExpr"
  | .other => "Other"

def ofName? (name : String) : Option CursorKind := all.find? (·.name == name)

theorem mem_all (kind : CursorKind) : kind ∈ all := by
  cases kind <;> decide

theorem ofName?_name (kind : CursorKind) : ofName? kind.name = some kind := by
  cases kind <;> decide

def isLiteral (kind : CursorKind) : Bool :=
  [.characterLiteral, .compoundLiteralExpr, .floatingLiteral, .imaginaryLiteral, .integerLiteral,
    .stringLiteral, .cxxBoolLiteralExpr, .cxxNullPtrLiteralExpr].contains kind

def isExpression (kind : CursorKind) : Bool :=
  [.callExpr, .declRefExpr, .memberRefExpr, .unaryOperator, .binaryOperator,
    .unexposedExpr].contains kind || kind.isLiteral

/-- Kinds that may name the target of a call. -/
def isCallLike (kind : CursorKind) : Bool :=
  [.callExpr, .declRefExpr, .overloadedDeclRef].contains kind

/-- Declarations with a template parameter list of their own. -/
def isDirectlyTemplated (kind : CursorKind) : Bool :=
  [.typeAliasTemplateDecl, .classTemplate, .classTemplatePartialSpecialization,
    .functionTemplate].contains kind

def isScopeBoundary (kind : CursorKind) : Bool :=
  [.«namespace», .translationUnit].contains kind

def isRecord (kind : CursorKind) : Bool :=
  [.classDecl, .structDecl, .unionDecl, .classTemplate,
    .classTemplatePartialSpecialization].contains kind

def isMemberFunction (kind : CursorKind) : Bool :=
  [.cxxMethod, .constructor, .destructor, .conversionFunction].contains kind

end CursorKind

end CxxTrees
