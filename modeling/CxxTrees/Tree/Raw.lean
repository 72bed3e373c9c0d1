import CxxTrees.Token.Text
import CxxTrees.Tree.Basic

/-!
# Trees of plain tokens

What is written directly in the source and not read any further.
-/

namespace CxxTrees

/-- An expression that is just tokens, without the semicolon behind it. -/
def Expr.ofTokens? (tokens : List String) (type : Ty) : Option Expr :=
  if tokens.isEmpty then none else some (.unexposed type (Token.dropTrailing ";" tokens))

/-- A type that is just tokens. -/
def Ty.ofTokens (tokens : List String) : Ty := .unexposed (Token.toText tokens)

end CxxTrees
