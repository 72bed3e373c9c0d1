/-!
# Kinds of types

What a frontend says a type is, with the name of each kind in a recorded table.
-/

namespace CxxTrees

inductive TypeKind where
  | invalid | unexposed | dependent | complex
  | void | bool | uchar | ushort | uint | ulong | ulongLong | uint128 | charU | charS
  | schar | short | int | long | longLong | int128 | float | double | longDouble | float128
  | wchar | char16 | char32 | nullPtr
  | elaborated | record | enum | typedef
  | pointer | lvalueReference | rvalueReference | incompleteArray | variableArray
  | dependentSizedArray | constantArray | functionNoProto | functionProto | memberPointer
  | auto
  | vector | blockPointer | atomic | attributed | objCObjectPointer
deriving DecidableEq

namespace TypeKind

def all : List TypeKind :=
  [.invalid, .unexposed, .dependent, .complex, .void, .bool, .uchar, .ushort, .uint, .ulong,
    .ulongLong, .uint128, .charU, .charS, .schar, .short, .int, .long, .longLong, .int128,
    .float, .double, .longDouble, .float128, .wchar, .char16, .char32, .nullPtr, .elaborated,
    .record, .enum, .typedef, .pointer, .lvalueReference, .rvalueReference, .incompleteArray,
    .variableArray, .dependentSizedArray, .constantArray, .functionNoProto, .functionProto,
    .memberPointer, .auto, .vector, .blockPointer, .atomic, .attributed, .objCObjectPointer]

def name : TypeKind → String
  | .invalid => "Invalid"
  | .unexposed => "Unexposed"
  | .dependent => "Dependent"
  | .complex => "Complex"
  | .void => "Void"
  | .bool => "Bool"
  | .uchar => "UChar"
  | .ushort => "UShort"
  | .uint => "UInt"
  | .ulong => "ULong"
  | .ulongLong => "ULongLong"
  | .uint128 => "UInt128"
  | .charU => "CharU"
  | .charS => "CharS"
  | .schar => "SChar"
  | .short => "Short"
  | .int => "Int"
  | .long => "Long"
  | .longLong => "LongLong"
  | .int128 => "Int128"
  | .float => "Float"
  | .double => "Double"
  | .longDouble => "LongDouble"
  | .float128 => "Float128"
  | .wchar => "WChar"
  | .char16 => "Char16"
  | .char32 => "Char32"
  | .nullPtr => "NullPtr"
  | .elaborated => "Elaborated"
  | .record => "Record"
  | .enum => "Enum"
  | .typedef => "Typedef"
  | .pointer => "Pointer"
  | .lvalueReference => "LValueReference"
  | .rvalueReference => "RValueReference"
  | .incompleteArray => "IncompleteArray"
  | .variableArray => "VariableArray"
  | .dependentSizedArray => "DependentSizedArray"
  | .constantArray => "ConstantArray"
  | .functionNoProto => "FunctionNoProto"
  | .functionProto => "FunctionProto"
  | .memberPointer => "MemberPointer"
  | .auto => "Auto"
  | .vector => "Vector"
  | .blockPointer => "BlockPointer"
  | .atomic => "Atomic"
  | .attributed => "Attributed"
  | .objCObjectPointer => "ObjCObjectPointer"

def ofName? (name : String) : Option TypeKind := all.find? (·.name == name)

theorem mem_all (kind : TypeKind) : kind ∈ all := by
  cases kind <;> decide

theorem ofName?_name (kind : TypeKind) : ofName? kind.name = some kind := by
  cases kind <;> decide

def isArray (kind : TypeKind) : Bool :=
  [.incompleteArray, .variableArray, .dependentSizedArray, .constantArray].contains kind

/-- Kinds that are reported but not modelled; a type of one of them is met with a warning. -/
def isUnmodelled (kind : TypeKind) : Bool :=
  [.vector, .blockPointer, .atomic, .attributed, .objCObjectPointer].contains kind

end TypeKind

end CxxTrees
