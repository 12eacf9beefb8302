/-!
# Pieces of a text

`Text.pieces` cuts a text at every separator; the separators are dropped.  There is always one piece
more than there are separators, so an empty text is one empty piece.
-/

namespace ToolRelay

namespace Text

/-- The pieces between the characters that satisfy `separates`. -/
def pieces (separates : Char → Bool) (cs : List Char) : List (List Char) :=
  let (piece, rest) := cs.foldr
    (fun c (piece, rest) => if separates c then ([], piece :: rest) else (c :: piece, rest))
    ([], [])
  piece :: rest

/-- The pieces between blanks and line breaks that are not empty. -/
def words (cs : List Char) : List (List Char) :=
  (pieces (fun c => c == ' ' || c == '\n') cs).filter (· ≠ [])

end Text

end ToolRelay
