import CxxTrees.Tree.Class

/-!
# Faults

Why a reconstruction fails. Each means that what the frontend recorded breaks a
rule the trees are built on; whatever can be worked around is none of these.
-/

namespace CxxTrees

inductive Fault where
  | invalidType (spelling : String)
  | missingResultType (spelling : String)
  | invalidArgumentCount (spelling : String) (index : Nat)
  | missingCursorType (cursor : String)
  | canonicalKindMismatch (spelling : String) (canonical : NodeClass)
  | ambiguousTemplateParameter (name template : String)
  | ambiguousTemplateTemplateParameter (name scope : String)
  | malformedSpelling (spelling reason : String)
  | canonicalAlreadySet
deriving DecidableEq

namespace Fault

def name : Fault → String
  | invalidType _ => "InvalidType"
  | missingResultType _ => "MissingResultType"
  | invalidArgumentCount _ _ => "InvalidArgumentCount"
  | missingCursorType _ => "MissingCursorType"
  | canonicalKindMismatch _ _ => "CanonicalKindMismatch"
  | ambiguousTemplateParameter _ _ => "AmbiguousTemplateParameter"
  | ambiguousTemplateTemplateParameter _ _ => "AmbiguousTemplateTemplateParameter"
  | malformedSpelling _ _ => "MalformedSpelling"
  | canonicalAlreadySet => "CanonicalAlreadySet"

def message : Fault → String
  | invalidType spelling => "invalid type '" ++ spelling ++ "'"
  | missingResultType spelling => "function type '" ++ spelling ++ "' has no result type"
  | invalidArgumentCount spelling index =>
    "function type '" ++ spelling ++ "' has no parameter " ++ toString index
  | missingCursorType cursor => "expression '" ++ cursor ++ "' has no type"
  | canonicalKindMismatch spelling canonical =>
    "template instantiation '" ++ spelling ++ "' canonicalizes to a " ++ canonical.display
      ++ " type"
  | ambiguousTemplateParameter name template =>
    "template '" ++ template ++ "' declares parameter '" ++ name ++ "' more than once"
  | ambiguousTemplateTemplateParameter name scope =>
    "multiple template template parameters named '" ++ name ++ "' in '" ++ scope ++ "'"
  | malformedSpelling spelling reason => "unexpected spelling '" ++ spelling ++ "': " ++ reason
  | canonicalAlreadySet => "canonical type already set"

end Fault

/-- Why a run ends without an answer: by a fault, by a handle that is in no
table, or because the links of the tables run in a circle. -/
inductive Stop where
  | fault (fault : Fault)
  | outsideTable
  | endless
deriving DecidableEq

end CxxTrees
