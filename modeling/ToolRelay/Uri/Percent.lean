import ToolRelay.Text.Utf8

/-!
# Percent encoding

In a URI an octet can be written as `%` and two hexadecimal digits.  Which characters must be
written so depends on where they stand; a *set* of them is a predicate on ASCII characters, and
characters beyond ASCII are always encoded, octet by octet.
-/

namespace ToolRelay

namespace Percent

/-- An upper-case hexadecimal digit. -/
def digit (n : Nat) : Char := if n < 10 then Char.ofNat (0x30 + n) else Char.ofNat (0x37 + n)

/-- An octet as `%` and two digits. -/
def octet (b : UInt8) : List Char := ['%', digit (b.toNat / 16), digit (b.toNat % 16)]

/-- Control characters. -/
def controls (c : Char) : Bool := c.toNat < 0x20 || c.toNat == 0x7F

/-- What is encoded in a fragment. -/
def inFragment (c : Char) : Bool :=
  controls c || c == ' ' || c == '"' || c == '<' || c == '>' || c == '\x60'

/-- What is encoded in a query. -/
def inQuery (c : Char) : Bool :=
  controls c || c == ' ' || c == '"' || c == '#' || c == '<' || c == '>'

/-- What is encoded in a query of a scheme that everybody knows. -/
def inSpecialQuery (c : Char) : Bool := inQuery c || c == '\''

/-- What is encoded in a path. -/
def inPath (c : Char) : Bool :=
  inFragment c || c == '#' || c == '?' || c == '\x7b' || c == '\x7d'

/-- What is encoded in one segment of a path, so that it stays one segment. -/
def inSegment (c : Char) : Bool := inPath c || c == '/' || c == '%' || c == '\\'

/-- What is encoded in the name and password of a user. -/
def inUserInfo (c : Char) : Bool :=
  inPath c || c == '/' || c == ':' || c == ';' || c == '=' || c == '@' || c == '[' || c == '\\' ||
    c == ']' || c == '^' || c == '|'

/-- A character as it is written where `set` must be encoded. -/
def encodeChar (set : Char → Bool) (c : Char) : List Char :=
  if c.toNat < 0x80 ∧ set c = false then [c] else (String.utf8EncodeChar c).flatMap octet

/-- An octet as it is written where `set` must be encoded. -/
def encodeOctet (set : Char → Bool) (b : UInt8) : List Char :=
  if b.toNat < 0x80 ∧ set (Char.ofNat b.toNat) = false then [Char.ofNat b.toNat] else octet b

/-- The value of a hexadecimal digit, given as an octet. -/
def digitValue? (b : UInt8) : Option Nat :=
  let n := b.toNat
  if 0x30 ≤ n ∧ n ≤ 0x39 then some (n - 0x30)
  else if 0x41 ≤ n ∧ n ≤ 0x46 then some (n - 0x37)
  else if 0x61 ≤ n ∧ n ≤ 0x66 then some (n - 0x57)
  else none

/-- The octets that are written, where `%` without two digits after it stands for itself. -/
def decode : Bytes → Bytes
  | [] => []
  | p :: a :: b :: rest =>
    if p = 0x25 then
      match digitValue? a, digitValue? b with
      | some m, some n => UInt8.ofNat (m * 16 + n) :: decode rest
      | _, _ => p :: decode (a :: b :: rest)
    else p :: decode (a :: b :: rest)
  | b :: rest => b :: decode rest

end Percent

end ToolRelay
