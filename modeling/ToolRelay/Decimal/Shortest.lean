import ToolRelay.Decimal.Binary64

/-!
# Shortest decimal text of a floating-point number

Of the decimal numbers that read back as the given one, `Shortest.digits` takes one with the
fewest digits, and of those the nearest.  `Shortest.render` writes it: in positions while the
point falls within sixteen digits or at most five places before the first one, else with an
exponent; `Shortest.renderPlain` writes it in positions throughout.
-/

namespace ToolRelay

namespace Shortest

/-- A positive decimal number `significand * 10 ^ exponent`. -/
structure Decimal where
  /-- The digits, as one number that does not end in zero. -/
  significand : Nat
  /-- The exponent of ten. -/
  exponent : Int
  deriving DecidableEq, Repr

/-- The real numbers that read back as a given one, as numerators over a common denominator. -/
structure Window where
  /-- Lower end. -/
  low : Nat
  /-- The number itself. -/
  mid : Nat
  /-- Upper end. -/
  high : Nat
  /-- The common denominator. -/
  den : Nat
  /-- Whether the ends belong to it. -/
  closed : Bool

/-- The window of a positive number.  Below a power of two the neighbour is half as far away. -/
def windowOf (x : Binary64) : Window :=
  let unit := Nat.pow 2 x.exponent
  let near := x.significand = 0x10000000000000 ∧ 0 < x.exponent
  { low := if near then (4 * x.significand - 1) * unit else (4 * x.significand - 2) * unit
    mid := 4 * x.significand * unit
    high := (4 * x.significand + 2) * unit
    den := 4 * Nat.pow 2 1074
    closed := x.significand % 2 = 0 }

/-- Whether `num / den` lies in the window. -/
def Window.holds (w : Window) (num den : Nat) : Bool :=
  let v := num * w.den
  if w.closed then decide (w.low * den ≤ v ∧ v ≤ w.high * den)
  else decide (w.low * den < v ∧ v < w.high * den)

/-- The distance of two natural numbers. -/
def distance (a b : Nat) : Nat := (a - b) + (b - a)

/-- The decimal numbers `n * 10 ^ k` next to `mid / den`, as the two values of `n`. -/
def neighbours (w : Window) (k : Int) : Nat × Nat :=
  let n := if 0 ≤ k then w.mid / (w.den * Nat.pow 10 k.toNat)
    else w.mid * Nat.pow 10 (-k).toNat / w.den
  (n, n + 1)

/-- `n * 10 ^ k` as a quotient of natural numbers. -/
def quotient (n : Nat) (k : Int) : Nat × Nat :=
  if 0 ≤ k then (n * Nat.pow 10 k.toNat, 1) else (n, Nat.pow 10 (-k).toNat)

/-- The decimal number with exponent `k` in the window that is nearest to its middle, in a tie the
even one. -/
def pick? (w : Window) (k : Int) : Option Decimal :=
  let (a, b) := neighbours w k
  let qa := quotient a k
  let qb := quotient b k
  let fits (q : Nat × Nat) := w.holds q.1 q.2
  let off (q : Nat × Nat) := distance (q.1 * w.den) (w.mid * q.2)
  if fits qa ∧ a ≠ 0 then
    if fits qb then
      if off qa < off qb ∨ (off qa = off qb ∧ a % 2 = 0) then some ⟨a, k⟩ else some ⟨b, k⟩
    else some ⟨a, k⟩
  else if fits qb then some ⟨b, k⟩ else none

/-- The decimal number of the coarsest grid `10 ^ k`, `10 ^ (k - 1)`, … that meets the window;
`n` grids are tried. -/
def search (w : Window) (k : Int) : Nat → Decimal
  | 0 => ⟨0, 0⟩
  | n + 1 => (pick? w k).getD (search w (k - 1) n)

/-- `d` without zeros at the end of its digits; at most `n` are dropped. -/
def dropZeros (d : Decimal) : Nat → Decimal
  | 0 => d
  | n + 1 =>
    if d.significand % 10 = 0 ∧ d.significand ≠ 0 then
      dropZeros ⟨d.significand / 10, d.exponent + 1⟩ n
    else d

/-- The shortest decimal number that reads back as the positive number `x`. -/
def digits (x : Binary64) : Decimal := dropZeros (search (windowOf x) 310 700) 400

/-- Digits, then a point and a zero, or with the point inside, or with an exponent. -/
def layOut (d : Decimal) : String :=
  let text := toString d.significand
  let n : Int := text.length
  let point := n + d.exponent
  let zeros (k : Int) := String.ofList (List.replicate k.toNat '0')
  if 0 ≤ d.exponent ∧ point ≤ 16 then text ++ zeros d.exponent ++ ".0"
  else if 0 < point ∧ point ≤ 16 then
    String.ofList (text.toList.take point.toNat) ++ "." ++
      String.ofList (text.toList.drop point.toNat)
  else if -5 < point ∧ point ≤ 0 then "0." ++ zeros (-point) ++ text
  else
    let exponent := (if point ≥ 1 then "e+" else "e") ++ toString (point - 1)
    if n = 1 then text ++ exponent
    else String.ofList (text.toList.take 1) ++ "." ++ String.ofList (text.toList.drop 1) ++ exponent

/-- Digits in positions, with a point and a zero where no place follows the point. -/
def layOutPlain (d : Decimal) : String :=
  let text := toString d.significand
  let point : Int := text.length + d.exponent
  let zeros (k : Int) := String.ofList (List.replicate k.toNat '0')
  if 0 ≤ d.exponent then text ++ zeros d.exponent ++ ".0"
  else if 0 < point then
    String.ofList (text.toList.take point.toNat) ++ "." ++
      String.ofList (text.toList.drop point.toNat)
  else "0." ++ zeros (-point) ++ text

/-- The text of a number, always in positions. -/
def renderPlain (x : Binary64) : String :=
  (if x.negative then "-" else "") ++ (if x.isZero then "0.0" else layOutPlain (digits x))

/-- The text of a number. -/
def render (x : Binary64) : String :=
  (if x.negative then "-" else "") ++ (if x.isZero then "0.0" else layOut (digits x))

end Shortest

end ToolRelay
