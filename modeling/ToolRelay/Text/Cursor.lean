/-!
# Places in a text

A `Text.Cursor` is a place in a text that is gone through: the characters ahead of it and the
number of octets behind it, because places are told in octets.
-/

namespace ToolRelay

namespace Text

/-- A place in a text. -/
structure Cursor where
  /-- How many octets are behind. -/
  index : Nat
  /-- The characters ahead. -/
  rest : List Char
  deriving Repr

namespace Cursor

/-- The beginning of a text. -/
def start (s : String) : Cursor := ⟨0, s.toList⟩

/-- The place behind the first `n` characters ahead. -/
def skip (c : Cursor) (n : Nat) : Cursor :=
  ⟨(c.rest.take n).foldl (fun index x => index + x.utf8Size) c.index, c.rest.drop n⟩

end Cursor

end Text

end ToolRelay
