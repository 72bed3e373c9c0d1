import CxxTrees.Token.Render

/-!
# Token lists as text

Tokens as a frontend or a tree holds them, to and from text.
-/

namespace CxxTrees.Token

/-- The tokens that a text is cut into. -/
def ofText (s : List Char) : List String := (scan s).map String.ofList

@[simp]
theorem map_toList_ofText (s : List Char) : (ofText s).map String.toList = scan s := by
  simp only [ofText, List.map_map, Function.comp_def, String.toList_ofList, List.map_id']

/-- The tokens written one behind the other. -/
def toText (tokens : List String) : String :=
  String.ofList (render (tokens.map String.toList))

/-- The tokens without a last one that is `token`. -/
def dropTrailing (token : String) (tokens : List String) : List String :=
  if tokens.getLast? = some token then tokens.dropLast else tokens

end CxxTrees.Token
