/-!
# Classes of type nodes

The variant of a type node alone, for comparing a declared form with a
canonical one.
-/

namespace CxxTrees

inductive NodeClass where
  | builtin | pointer | reference | qualified | array | function | memberObject | memberFunction
  | templateParameter | instantiation | userDefined | decltype | auto | unexposed
deriving DecidableEq

namespace NodeClass

def all : List NodeClass :=
  [.builtin, .pointer, .reference, .qualified, .array, .function, .memberObject, .memberFunction,
    .templateParameter, .instantiation, .userDefined, .decltype, .auto, .unexposed]

def name : NodeClass → String
  | .builtin => "Builtin"
  | .pointer => "Pointer"
  | .reference => "Reference"
  | .qualified => "CvQualified"
  | .array => "Array"
  | .function => "Function"
  | .memberObject => "MemberObject"
  | .memberFunction => "MemberFunction"
  | .templateParameter => "TemplateParameter"
  | .instantiation => "TemplateInstantiation"
  | .userDefined => "UserDefined"
  | .decltype => "Decltype"
  | .auto => "Auto"
  | .unexposed => "Unexposed"

def display : NodeClass → String
  | .builtin => "builtin"
  | .pointer => "pointer"
  | .reference => "reference"
  | .qualified => "cv-qualified"
  | .array => "array"
  | .function => "function"
  | .memberObject => "member object"
  | .memberFunction => "member function"
  | .templateParameter => "template parameter"
  | .instantiation => "template instantiation"
  | .userDefined => "user-defined"
  | .decltype => "decltype"
  | .auto => "auto"
  | .unexposed => "unexposed"

end NodeClass

end CxxTrees
