/-!
# Replacing a piece of text

`Text.replace` replaces every occurrence of a pattern, from left to right; what has been put in is
not searched again.
-/

namespace ToolRelay

namespace Text

/-- Goes through the rest of a text: the next `skip` characters belong to an occurrence that has
been replaced, and `done` holds the outcome so far, last first. -/
def replaceFrom (pattern new : List Char) : (skip : Nat) → (done : List Char) → List Char →
    List Char
  | _, done, [] => done.reverse
  | skip + 1, done, _ :: rest => replaceFrom pattern new skip done rest
  | 0, done, c :: rest =>
    if pattern.isPrefixOf (c :: rest) then
      replaceFrom pattern new (pattern.length - 1) (new.reverse ++ done) rest
    else replaceFrom pattern new 0 (c :: done) rest

/-- The text with every occurrence of `pattern`, which is not empty, replaced by `new`. -/
def replace (pattern new s : String) : String :=
  String.ofList (replaceFrom pattern.toList new.toList 0 [] s.toList)

end Text

end ToolRelay
