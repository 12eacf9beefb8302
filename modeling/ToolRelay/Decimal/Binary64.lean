/-!
# Finite 64-bit binary floating-point numbers

A number is a sign, a significand below `2 ^ 53` and an exponent; it stands for
`significand * 2 ^ (exponent - 1074)`.  All arithmetic is exact in the natural numbers and rounded
once at the end, to the nearest number and in a tie to the even one.
-/

namespace ToolRelay

/-- A finite 64-bit binary floating-point number. -/
structure Binary64 where
  /-- Whether the sign is minus. -/
  negative : Bool
  /-- The significand, below `2 ^ 53`, and at least `2 ^ 52` unless the exponent is 0. -/
  significand : Nat
  /-- The exponent of 2, plus 1074; at most 2045. -/
  exponent : Nat
  deriving DecidableEq, Repr

namespace Binary64

/-- Zero, with the given sign. -/
def zero (negative : Bool) : Binary64 := ⟨negative, 0, 0⟩

/-- The quotient of two natural numbers, rounded to the nearest integer and in a tie to the even
one. -/
def roundDiv (num den : Nat) : Nat :=
  let q := num / den
  let r := num % den
  if 2 * r < den ∨ (2 * r = den ∧ q % 2 = 0) then q else q + 1

/-- The number nearest to `num / den`; `none` if that is beyond the greatest one. -/
def ofRatio? (negative : Bool) (num den : Nat) : Option Binary64 :=
  let scaled := num * Nat.pow 2 1074
  let e := (scaled / den).log2 - 52
  let m := roundDiv scaled (den * Nat.pow 2 e)
  let (m, e) := if m = 0x20000000000000 then (0x10000000000000, e + 1) else (m, e)
  if e ≤ 2045 then some ⟨negative, m, e⟩ else none

/-- The number as a quotient of natural numbers, without its sign. -/
def ratio (x : Binary64) : Nat × Nat := (x.significand * Nat.pow 2 x.exponent, Nat.pow 2 1074)

/-- Whether the number is zero, of either sign. -/
def isZero (x : Binary64) : Bool := x.significand == 0

/-- The number with the given sign. -/
def withSign (x : Binary64) (negative : Bool) : Binary64 := { x with negative }

/-- The product, with the sign of the first factor; `none` if it is beyond the greatest number. -/
def mul? (x y : Binary64) : Option Binary64 :=
  ofRatio? x.negative (x.ratio.1 * y.ratio.1) (x.ratio.2 * y.ratio.2)

/-- The quotient, with the sign of the dividend; `none` if it is beyond the greatest number. -/
def div? (x y : Binary64) : Option Binary64 :=
  ofRatio? x.negative (x.ratio.1 * y.ratio.2) (x.ratio.2 * y.ratio.1)

/-- The number nearest to a natural number. -/
def ofNat? (n : Nat) : Option Binary64 := ofRatio? false n 1

end Binary64

end ToolRelay
