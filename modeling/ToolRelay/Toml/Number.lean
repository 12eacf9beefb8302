import ToolRelay.Toml.Basic

/-!
# Numbers in TOML

Integers with an optional sign, or in base 16, 8 or 2 without one; floating-point numbers with a
fraction, an exponent or both.  Single underscores may stand between digits.
-/

namespace ToolRelay

namespace Toml

namespace Number

/-- The value of a digit. -/
def digitValue? (base : Nat) (c : Char) : Option Nat :=
  let n := c.toNat
  let value :=
    if 0x30 ≤ n ∧ n ≤ 0x39 then n - 0x30
    else if 0x41 ≤ n ∧ n ≤ 0x46 then n - 0x37
    else if 0x61 ≤ n ∧ n ≤ 0x66 then n - 0x57
    else base
  if value < base then some value else none

/-- The digits of a group in which single underscores may stand between digits; none if it is no
such group. -/
def group? (base : Nat) : List Char → Option (List Nat)
  | [] => none
  | [c] => (digitValue? base c).map ([·])
  | c :: '_' :: rest => do
    let d ← digitValue? base c
    return d :: (← group? base rest)
  | c :: rest => do
    let d ← digitValue? base c
    return d :: (← group? base rest)

/-- The number with the given digits. -/
def ofDigits (base : Nat) (digits : List Nat) : Nat := digits.foldl (fun n d => n * base + d) 0

/-- The sign at the beginning of a number, whether it is minus, and what follows. -/
def signed : List Char → Bool × List Char
  | '-' :: rest => (true, rest)
  | '+' :: rest => (false, rest)
  | cs => (false, cs)

/-- The digits of the part of a number before the point: no zero comes before another digit. -/
def whole? (cs : List Char) : Option (List Nat) :=
  match group? 10 cs with
  | some (0 :: _ :: _) => none
  | digits => digits

/-- The integer that a text spells. -/
def integer? (cs : List Char) : Option Int :=
  let natural (base : Nat) (rest : List Char) : Option Int :=
    (group? base rest).map fun digits => ((ofDigits base digits : Nat) : Int)
  match cs with
  | '0' :: 'x' :: rest => natural 16 rest
  | '0' :: 'o' :: rest => natural 8 rest
  | '0' :: 'b' :: rest => natural 2 rest
  | cs => do
    let (negative, rest) := signed cs
    let n : Int := ofDigits 10 (← whole? rest)
    return if negative then -n else n

/-- The number `digits * 10 ^ exponent`; none if it is beyond all numbers. -/
def scaled? (negative : Bool) (digits : List Nat) (exponent : Int) : Option Binary64 :=
  let n := ofDigits 10 digits
  let size : Int := (toString n).length
  if n = 0 ∨ exponent + size < -400 then some (Binary64.zero negative)
  else if 400 < exponent + size then none
  else if 0 ≤ exponent then Binary64.ofRatio? negative (n * Nat.pow 10 exponent.toNat) 1
  else Binary64.ofRatio? negative n (Nat.pow 10 (-exponent).toNat)

/-- The floating-point number that a text spells. -/
def real? (cs : List Char) : Option Real := do
  let (negative, rest) := signed cs
  if rest = ['i', 'n', 'f'] then some (.infinite negative)
  else if rest = ['n', 'a', 'n'] then some .nan
  else
    let isMark (c : Char) := c == 'e' || c == 'E'
    let mantissa := rest.takeWhile (!isMark ·)
    let power := rest.dropWhile (!isMark ·)
    let before := mantissa.takeWhile (· != '.')
    let after := mantissa.dropWhile (· != '.')
    let digits ← whole? before
    let places ← if after = [] then some [] else group? 10 (after.drop 1)
    let exponent : Int ←
      if power = [] then some 0
      else do
        let (negative, rest) := signed (power.drop 1)
        let n : Int := ofDigits 10 (← group? 10 rest)
        some (if negative then -n else n)
    if after = [] ∧ power = [] then none
    else
      (scaled? negative (digits ++ places) (exponent - places.length)).map .finite

end Number

end Toml

end ToolRelay
