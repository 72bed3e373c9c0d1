import CxxTrees.Token.Scan

/-!
# Rendering tokens

Tokens are written one behind the other, with a space where the characters
that meet would otherwise be read as one token or as a comment.
-/

namespace CxxTrees.Token
open Text

/-- Whether `a` at the end of a token and `b` at the start of the next need a space. -/
def collide (a b : Char) : Bool :=
  (isIdentifierChar a && isIdentifierChar b) || punctuators2.contains [a, b]
    || (a == '/' && (b == '/' || b == '*'))

def needsSpace (left right : List Char) : Bool :=
  match left.getLast?, right.head? with
  | some a, some b => collide a b
  | _, _ => false

def render : List (List Char) → List Char
  | [] => []
  | [t] => t
  | t :: u :: ts => t ++ (if needsSpace t u then [' '] else []) ++ render (u :: ts)

end CxxTrees.Token
