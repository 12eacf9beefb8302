import ToolRelay.Decimal.Shortest

/-!
# JSON values

Values keep the order in which the members of an object were written.  Numbers are integers
between `-2 ^ 63` and `2 ^ 64 - 1`, or floating-point numbers.
-/

namespace ToolRelay

/-- A JSON value. -/
inductive Json where
  /-- The value `null`. -/
  | null
  /-- A truth value. -/
  | bool (b : Bool)
  /-- An integer. -/
  | int (n : Int)
  /-- A floating-point number. -/
  | real (x : Binary64)
  /-- A text. -/
  | text (s : String)
  /-- A sequence of values. -/
  | array (items : List Json)
  /-- Named values, in order. -/
  | object (members : List (String × Json))
  deriving Repr, Inhabited

namespace Json

/-- A natural number. -/
def nat (n : Nat) : Json := .int n

/-- An optional value, `null` when absent. -/
def option {α : Type} (f : α → Json) : Option α → Json
  | none => .null
  | some a => f a

/-- An array of texts. -/
def texts (ss : List String) : Json := .array (ss.map .text)

/-- Whether a value is `null`. -/
def isNull : Json → Bool
  | .null => true
  | _ => false

/-- The first value under a name among members. -/
def lookup (name : String) : List (String × Json) → Option Json
  | [] => none
  | (k, v) :: rest => if k = name then some v else lookup name rest

/-- Members with the value under a name replaced where it stands, or put at the end. -/
def put (name : String) (value : Json) : List (String × Json) → List (String × Json)
  | [] => [(name, value)]
  | (k, v) :: rest => if k = name then (k, value) :: rest else (k, v) :: put name value rest

/-- The value under a name in an object. -/
def get? (j : Json) (name : String) : Option Json :=
  match j with
  | .object members => lookup name members
  | _ => none

end Json

end ToolRelay
