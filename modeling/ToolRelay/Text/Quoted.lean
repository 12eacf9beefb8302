import ToolRelay.Text.Printable
import ToolRelay.Path.Basic

/-!
# Quoted texts

A text or a path between double quotes, with a backslash before quotes and backslashes, and with
characters that do not show written by their code point.
-/

namespace ToolRelay

namespace Text

/-- A number in lower-case hexadecimal digits. -/
def hex (n : Nat) : String := String.ofList (Nat.toDigits 16 n)

/-- A character inside quotes; an apostrophe is escaped too if `apostrophe` says so. -/
def quotedChar (apostrophe : Bool) (c : Char) : String :=
  if c = '"' then "\\\""
  else if c = '\\' then "\\\\"
  else if c = '\n' then "\\n"
  else if c = '\r' then "\\r"
  else if c = '\t' then "\\t"
  else if c = '\x00' then "\\0"
  else if c = '\'' ∧ apostrophe = true then "\\'"
  else if isShown c then String.singleton c
  else "\\u\x7b" ++ hex c.toNat ++ "\x7d"

/-- A text between double quotes. -/
def quoted (s : String) : String :=
  "\"" ++ String.join (s.toList.map (quotedChar false)) ++ "\""

/-- Two upper-case hexadecimal digits of an octet. -/
def upperHex (b : UInt8) : String :=
  String.ofList ((Nat.toDigits 16 (0x100 + b.toNat)).tail.map Char.toUpper)

/-- A piece of a byte sequence inside quotes; the octets of a flaw are written one by one. -/
def quotedPiece : Utf8.Piece → String
  | .char c => quotedChar true c
  | piece => String.join (piece.bytes.map fun b => "\\x" ++ upperHex b)

/-- A path between double quotes. -/
def quotedPath (p : Path) : String :=
  "\"" ++ String.join ((Utf8.pieces p.bytes).map quotedPiece) ++ "\""

/-- Items between brackets. -/
def bracketed (items : List String) : String := "[" ++ ", ".intercalate items ++ "]"

end Text

end ToolRelay
