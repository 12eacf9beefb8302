import ToolRelay.Json.Basic

/-!
# Writing JSON

* `Json.compact` writes a value without blanks, so on one line.
* `Json.pretty` writes each item and member on a line of its own, indented by two blanks a level.

Both escape only what a JSON text cannot hold: quotes, backslashes and control characters.
-/

namespace ToolRelay

namespace Json

/-- A hexadecimal digit in lower case. -/
def hexDigit (n : Nat) : Char := if n < 10 then Char.ofNat (0x30 + n) else Char.ofNat (0x57 + n)

/-- A character inside a JSON text. -/
def escape (c : Char) : List Char :=
  if c = '"' then ['\\', '"']
  else if c = '\\' then ['\\', '\\']
  else if c = '\n' then ['\\', 'n']
  else if c = '\r' then ['\\', 'r']
  else if c = '\t' then ['\\', 't']
  else if c = '\x08' then ['\\', 'b']
  else if c = '\x0c' then ['\\', 'f']
  else if c.toNat < 0x20 then
    ['\\', 'u', '0', '0', hexDigit (c.toNat / 16), hexDigit (c.toNat % 16)]
  else [c]

/-- A text in quotes. -/
def quoteChars (s : String) : List Char := '"' :: (s.toList.flatMap escape ++ ['"'])

mutual

/-- The characters of a value written without blanks. -/
def compactChars : Json → List Char
  | .null => ['n', 'u', 'l', 'l']
  | .bool true => ['t', 'r', 'u', 'e']
  | .bool false => ['f', 'a', 'l', 's', 'e']
  | .int n => (toString n).toList
  | .real x => (Shortest.render x).toList
  | .text s => quoteChars s
  | .array items => '[' :: compactItems true items
  | .object members => '{' :: compactMembers true members

/-- The items of an array and the bracket after them; a comma stands before every item but the
`first`. -/
def compactItems (first : Bool) : List Json → List Char
  | [] => [']']
  | j :: rest => (if first then [] else [',']) ++ compactChars j ++ compactItems false rest

/-- The members of an object and the brace after them. -/
def compactMembers (first : Bool) : List (String × Json) → List Char
  | [] => ['}']
  | (k, v) :: rest =>
    (if first then [] else [',']) ++ quoteChars k ++ ':' :: compactChars v ++
      compactMembers false rest

end

/-- A value written without blanks. -/
def compact (j : Json) : String := String.ofList (compactChars j)

/-- A line break and the indentation of a level. -/
def newLine (level : Nat) : List Char := '\n' :: List.replicate (2 * level) ' '

mutual

/-- The characters of a value written over several lines, at a level of indentation. -/
def prettyChars (level : Nat) : Json → List Char
  | .array [] => ['[', ']']
  | .array (j :: rest) =>
    '[' :: newLine (level + 1) ++ prettyChars (level + 1) j ++ prettyItems level rest
  | .object [] => ['{', '}']
  | .object ((k, v) :: rest) =>
    '{' :: newLine (level + 1) ++ quoteChars k ++ ':' :: ' ' :: prettyChars (level + 1) v ++
      prettyMembers level rest
  | .null => ['n', 'u', 'l', 'l']
  | .bool true => ['t', 'r', 'u', 'e']
  | .bool false => ['f', 'a', 'l', 's', 'e']
  | .int n => (toString n).toList
  | .real x => (Shortest.render x).toList
  | .text s => quoteChars s

/-- The items of an array after the first, and the bracket after them. -/
def prettyItems (level : Nat) : List Json → List Char
  | [] => newLine level ++ [']']
  | j :: rest => ',' :: newLine (level + 1) ++ prettyChars (level + 1) j ++ prettyItems level rest

/-- The members of an object after the first, and the brace after them. -/
def prettyMembers (level : Nat) : List (String × Json) → List Char
  | [] => newLine level ++ ['}']
  | (k, v) :: rest =>
    ',' :: newLine (level + 1) ++ quoteChars k ++ ':' :: ' ' :: prettyChars (level + 1) v ++
      prettyMembers level rest

end

/-- A value written over several lines. -/
def pretty (j : Json) : String := String.ofList (prettyChars 0 j)

end Json

end ToolRelay
