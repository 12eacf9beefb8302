import ToolRelay.Text.Pieces

/-!
# Tables of code points

What a standard says of single characters is kept in tables.  A row speaks of one code point, of all
from one to another, or of every second of these, and gives numbers for them.  The rows of a table
stand in the order of their code points and do not overlap, so that `Table.row?` can find a row by
halving.

A table is written down in hexadecimal numbers.  A semicolon ends a row; its first word names the
code points, `first`, `first-last` or `first-last/2`, and the others are the numbers.
-/

namespace ToolRelay

namespace Unicode

/-- A row of a table. -/
structure Row where
  /-- The first code point. -/
  first : Nat
  /-- The last code point. -/
  last : Nat
  /-- How far the code points are from each other. -/
  stride : Nat
  /-- The numbers for them. -/
  image : List Nat
  deriving DecidableEq, Repr

/-- Whether a row speaks of a code point. -/
def Row.contains (r : Row) (n : Nat) : Bool :=
  r.first ≤ n && n ≤ r.last && (n - r.first) % r.stride == 0

/-- Rows in the order of their code points. -/
structure Table where
  /-- The rows. -/
  rows : Array Row
  deriving Repr

/-! ### Finding -/

/-- The row that speaks of `n` among those from `low` on and before `high`; `fuel` as large as their
number is enough. -/
def Table.search (t : Table) (n : Nat) : (fuel low high : Nat) → Option Row
  | 0, _, _ => none
  | fuel + 1, low, high =>
    if low < high then
      let middle := (low + high) / 2
      match t.rows[middle]? with
      | none => none
      | some r =>
        if n < r.first then search t n fuel low middle
        else if r.last < n then search t n fuel (middle + 1) high
        else if r.contains n then some r
        else none
    else none

/-- The row that speaks of a character. -/
def Table.row? (t : Table) (c : Char) : Option Row :=
  t.search c.toNat t.rows.size 0 t.rows.size

/-- Whether a row speaks of a character. -/
def Table.contains (t : Table) (c : Char) : Bool := (t.row? c).isSome

/-! ### Reading -/

/-- The value of a hexadecimal digit. -/
def digitValue (c : Char) : Nat := if c.toNat < 0x41 then c.toNat - 0x30 else c.toNat - 0x37

/-- The number that hexadecimal digits spell. -/
def number (cs : List Char) : Nat := cs.foldl (fun n c => n * 16 + digitValue c) 0

/-- The row in which the code points `span` names have the numbers `image`. -/
def Row.ofWords (span : List Char) (image : List (List Char)) : Row :=
  let image := image.map number
  match Text.pieces (fun c => c == '-' || c == '/') span with
  | [first, last] => ⟨number first, number last, 1, image⟩
  | [first, last, stride] => ⟨number first, number last, number stride, image⟩
  | _ => ⟨number span, number span, 1, image⟩

/-- The table that a text spells. -/
def Table.ofText (s : String) : Table :=
  ⟨((Text.pieces (· == ';') s.toList).filterMap fun row =>
    match Text.words row with
    | [] => none
    | span :: image => some (Row.ofWords span image)).toArray⟩

end Unicode

end ToolRelay
