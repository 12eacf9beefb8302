import ToolRelay.Domain.Label
import ToolRelay.Uri.Percent

/-!
# Names of domains

The name of a domain may be written with any letters; what a URI keeps is its ASCII form.
`Domain.toAscii?` replaces characters that have another form, composes what is left, cuts the name
at its dots and writes every label in ASCII.
-/

namespace ToolRelay

namespace Domain

/-- Characters of ASCII that no name may have. -/
def isForbidden (c : Char) : Bool :=
  Percent.controls c || c == ' ' || c == '%' || c == '#' || c == '/' || c == ':' || c == '<' ||
    c == '>' || c == '?' || c == '@' || c == '[' || c == '\\' || c == ']' || c == '^' || c == '|'

/-- Cuts a name at its dots. -/
def labels (cs : List Char) : List (List Char) := Text.pieces (· == '.') cs

/-- The labels of a name, if all of them may stand in one name. -/
def readLabels? (cs : List Char) : Option (List Label) := do
  let ls ← (labels cs).mapM Label.ofText?
  if ls.any Label.isLeftward && !ls.all Label.keepsDirection then none else some ls

/-- The ASCII form of a name, if it has one. -/
def toAscii? (octets : Bytes) : Option (List Char) := do
  let name ← Utf8.decode? octets
  let cs := Unicode.compose (← name.toList.mapM map?).flatten
  if cs.any isForbidden then none
  else
    let ls ← readLabels? cs
    some (List.intercalate ['.'] (ls.map Label.ascii))

end Domain

end ToolRelay
