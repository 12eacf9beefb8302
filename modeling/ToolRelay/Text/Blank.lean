/-!
# Blank characters and lines

The characters with the Unicode property `White_Space`, trimming by them, and cutting a text into
lines.
-/

namespace ToolRelay

namespace Text

/-- The characters with the Unicode property `White_Space`. -/
def isBlank (c : Char) : Bool :=
  let n := c.toNat
  (0x9 ≤ n && n ≤ 0xD) || n == 0x20 || n == 0x85 || n == 0xA0 || n == 0x1680 ||
    (0x2000 ≤ n && n ≤ 0x200A) || n == 0x2028 || n == 0x2029 || n == 0x202F || n == 0x205F ||
    n == 0x3000

/-- Whether a text holds nothing but blank characters. -/
def isBlankText (s : String) : Bool := s.toList.all isBlank

/-- The pieces of a list between the elements that satisfy `p`; there is always one more piece
than separators. -/
def splitOnAll {α : Type} (p : α → Bool) (xs : List α) : List (List α) :=
  let (piece, pieces) := xs.foldr
    (fun x (piece, pieces) => if p x then ([], piece :: pieces) else (x :: piece, pieces)) ([], [])
  piece :: pieces

/-- The lines of a text: an LF ends a line, a CR before it is dropped, and an empty piece after
the last LF is no line. -/
def lines (s : String) : List String :=
  let pieces := splitOnAll (· == '\n') s.toList
  let ended := pieces.dropLast.map fun l =>
    if l.getLast? = some '\r' then l.dropLast else l
  let last := (pieces.getLast?).toList.filter (· ≠ [])
  (ended ++ last).map String.ofList

/-- The first line with a character that is not blank. -/
def firstFullLine? (s : String) : Option String := (lines s).find? fun l => !isBlankText l

end Text

end ToolRelay
