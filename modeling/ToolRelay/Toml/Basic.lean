import ToolRelay.Decimal.Shortest
import ToolRelay.Json.Complaint

/-!
# TOML values

A `Toml` value keeps where it stands in the text, so that complaints can point at it, and a table
keeps how it was introduced, because that decides what may still be added to it.
-/

namespace ToolRelay

namespace Toml

/-- A stretch of a text, in octets. -/
structure Span where
  /-- Where it begins. -/
  start : Nat
  /-- Where it ends. -/
  stop : Nat
  deriving DecidableEq, Repr

/-- A floating-point number. -/
inductive Real where
  /-- A number. -/
  | finite (x : Binary64)
  /-- Beyond all numbers, on either side. -/
  | infinite (negative : Bool)
  /-- Not a number. -/
  | nan
  deriving DecidableEq, Repr

/-- The number as text, always in positions. -/
def Real.render : Real → String
  | .finite x => Shortest.renderPlain x
  | .infinite negative => if negative then "-inf" else "inf"
  | .nan => "NaN"

/-- A value without parts. -/
inductive Scalar where
  /-- A text. -/
  | text (s : String)
  /-- An integer. -/
  | integer (n : Int)
  /-- A floating-point number. -/
  | real (x : Real)
  /-- A truth value. -/
  | bool (b : Bool)
  /-- A date, a time or both, as it is written. -/
  | moment (s : String)
  deriving DecidableEq, Repr

/-- How a table was introduced. -/
inductive Origin where
  /-- By its own header, or as the whole document. -/
  | header
  /-- By the header of a table inside it. -/
  | above
  /-- By a dotted name. -/
  | dotted
  /-- In braces. -/
  | inline
  deriving DecidableEq, Repr

/-- Whether a table is only there because something inside it is. -/
def Origin.isImplied : Origin → Bool
  | .above | .dotted => true
  | .header | .inline => false

/-- A name, and where it stands. -/
structure Key where
  /-- The name. -/
  name : String
  /-- Where it stands. -/
  span : Span
  deriving DecidableEq, Repr

end Toml

/-- A TOML value with its place. -/
inductive Toml where
  /-- A value without parts. -/
  | scalar (span : Toml.Span) (s : Toml.Scalar)
  /-- An array; whether it was introduced by the headers of its tables. -/
  | array (span : Toml.Span) (ofTables : Bool) (items : List Toml)
  /-- A table. -/
  | table (span : Toml.Span) (origin : Toml.Origin) (members : List (Toml.Key × Toml))

namespace Toml

/-- Where the value stands. -/
def span : Toml → Span
  | .scalar span _ => span
  | .array span _ _ => span
  | .table span _ _ => span

/-- What kind of value it is. -/
def found : Toml → Found
  | .scalar _ (.text s) => .text s
  | .scalar _ (.integer n) => .int n
  | .scalar _ (.real x) => .real x.render
  | .scalar _ (.bool b) => .bool b
  | .scalar _ (.moment _) => .map
  | .array _ _ _ => .sequence
  | .table _ _ _ => .map

/-- The name of the kind of value. -/
def kindName : Toml → String
  | .scalar _ (.text _) => "string"
  | .scalar _ (.integer _) => "integer"
  | .scalar _ (.real _) => "float"
  | .scalar _ (.bool _) => "boolean"
  | .scalar _ (.moment _) => "datetime"
  | .array _ _ _ => "array"
  | .table _ _ _ => "table"

mutual

/-- Whether every integer in the value is one of 64 bits. -/
def isNarrow : Toml → Bool
  | .scalar _ (.integer n) => -0x8000000000000000 ≤ n && n < 0x8000000000000000
  | .scalar _ _ => true
  | .array _ _ items => areNarrow items
  | .table _ _ members => membersAreNarrow members

/-- Whether every integer in the items of an array is one of 64 bits. -/
def areNarrow : List Toml → Bool
  | [] => true
  | t :: ts => t.isNarrow && areNarrow ts

/-- Whether every integer in the members of a table is one of 64 bits. -/
def membersAreNarrow : List (Key × Toml) → Bool
  | [] => true
  | (_, t) :: ms => t.isNarrow && membersAreNarrow ms

end

/-- The members of a table, in the order of their names. -/
abbrev Members := List (Key × Toml)

namespace Members

/-- The value under a name. -/
def find? (ms : Members) (name : String) : Option Toml :=
  (List.find? (·.1.name == name) ms).map (·.2)

/-- The members with a value put under a name that is not among them, in the order of names. -/
def insert (ms : Members) (key : Key) (value : Toml) : Members :=
  ms.takeWhile (·.1.name < key.name) ++ (key, value) :: ms.dropWhile (·.1.name < key.name)

/-- The members with another value under a name that is among them. -/
def replace (ms : Members) (name : String) (value : Toml) : Members :=
  ms.map fun m => if m.1.name = name then (m.1, value) else m

end Members

end Toml

end ToolRelay
