/-!
# Builtin types

The fundamental types, each with its name and the keywords that spell it.
-/

namespace CxxTrees

inductive Builtin where
  | void | bool | uchar | ushort | uint | ulong | ulongLong | uint128 | schar | short | int | long
  | longLong | int128 | float | double | longDouble | float128 | char | wchar | char16 | char32
  | nullPtr
deriving DecidableEq

namespace Builtin

def all : List Builtin :=
  [.void, .bool, .uchar, .ushort, .uint, .ulong, .ulongLong, .uint128, .schar, .short, .int, .long,
    .longLong, .int128, .float, .double, .longDouble, .float128, .char, .wchar, .char16, .char32,
    .nullPtr]

def name : Builtin → String
  | .void => "Void"
  | .bool => "Bool"
  | .uchar => "UChar"
  | .ushort => "UShort"
  | .uint => "UInt"
  | .ulong => "ULong"
  | .ulongLong => "ULongLong"
  | .uint128 => "UInt128"
  | .schar => "SChar"
  | .short => "Short"
  | .int => "Int"
  | .long => "Long"
  | .longLong => "LongLong"
  | .int128 => "Int128"
  | .float => "Float"
  | .double => "Double"
  | .longDouble => "LongDouble"
  | .float128 => "Float128"
  | .char => "Char"
  | .wchar => "WChar"
  | .char16 => "Char16"
  | .char32 => "Char32"
  | .nullPtr => "NullPtr"

def spelling : Builtin → String
  | .void => "void"
  | .bool => "bool"
  | .uchar => "unsigned char"
  | .ushort => "unsigned short"
  | .uint => "unsigned int"
  | .ulong => "unsigned long"
  | .ulongLong => "unsigned long long"
  | .uint128 => "unsigned __int128"
  | .schar => "signed char"
  | .short => "short"
  | .int => "int"
  | .long => "long"
  | .longLong => "long long"
  | .int128 => "__int128"
  | .float => "float"
  | .double => "double"
  | .longDouble => "long double"
  | .float128 => "__float128"
  | .char => "char"
  | .wchar => "wchar_t"
  | .char16 => "char16_t"
  | .char32 => "char32_t"
  | .nullPtr => "std::nullptr_t"

def ofName? (name : String) : Option Builtin := all.find? (·.name == name)

theorem mem_all (kind : Builtin) : kind ∈ all := by
  cases kind <;> decide

theorem ofName?_name (kind : Builtin) : ofName? kind.name = some kind := by
  cases kind <;> decide

end Builtin

end CxxTrees
