/-!
# Bootstring

A label with characters beyond ASCII is written in ASCII by a code (RFC 3492): first its plain
characters, then a hyphen, then numbers that say which characters to put in between and where.
-/

namespace ToolRelay

namespace Domain

/-- The threshold at digit `k` of a number, `k` counting in steps of 36. -/
def threshold (k bias : Nat) : Nat := if k ≤ bias then 1 else if bias + 26 ≤ k then 26 else k - bias

/-- Divides by 35 until the number is small; each step adds 36 to `k`. -/
def shrink : (fuel delta k : Nat) → Nat × Nat
  | 0, delta, k => (delta, k)
  | fuel + 1, delta, k => if 455 < delta then shrink fuel (delta / 35) (k + 36) else (delta, k)

/-- The bias after a number has been written. -/
def adapt (delta points : Nat) (first : Bool) : Nat :=
  let delta := if first then delta / 700 else delta / 2
  let (delta, k) := shrink delta (delta + delta / points) 0
  k + 36 * delta / (delta + 38)

/-- The character for a digit. -/
def digit (d : Nat) : Char := if d < 26 then Char.ofNat (0x61 + d) else Char.ofNat (0x16 + d)

/-- The value of a digit. -/
def digitValue? (c : Char) : Option Nat :=
  let n := c.toNat
  if 0x61 ≤ n ∧ n ≤ 0x7A then some (n - 0x61)
  else if 0x41 ≤ n ∧ n ≤ 0x5A then some (n - 0x41)
  else if 0x30 ≤ n ∧ n ≤ 0x39 then some (n - 0x16)
  else none

/-! ### Writing -/

/-- The digits of `q`, the first at position `k`; `fuel` above `q` is enough. -/
def writeNumber (bias : Nat) : (fuel q k : Nat) → List Char
  | 0, _, _ => []
  | fuel + 1, q, k =>
    let t := threshold k bias
    if q < t then [digit q]
    else digit (t + (q - t) % (36 - t)) :: writeNumber bias fuel ((q - t) / (36 - t)) (k + 36)

/-- Where the encoder stands: what has been written last first, how many characters are done, the
difference so far and the bias. -/
structure Encoder where
  /-- What has been written, last first. -/
  output : List Char
  /-- How many characters have been written. -/
  done : Nat
  /-- How many characters were plain. -/
  plain : Nat
  /-- The number that the next character adds to. -/
  delta : Nat
  /-- The bias. -/
  bias : Nat

/-- One character of the label, in the round for the code point `n`. -/
def Encoder.step (n : Nat) (e : Encoder) (c : Char) : Encoder :=
  if c.toNat < n then { e with delta := e.delta + 1 }
  else if c.toNat = n then
    { e with
      output := (writeNumber e.bias (e.delta + 1) e.delta 36).reverse ++ e.output
      bias := adapt e.delta (e.done + 1) (e.done == e.plain)
      delta := 0
      done := e.done + 1 }
  else e

/-- The rounds for the code points of the label beyond `n`, least first. -/
def Encoder.rounds (label : List Char) : (fuel n : Nat) → Encoder → Encoder
  | 0, _, e => e
  | fuel + 1, n, e =>
    match (label.map Char.toNat).filter (n ≤ ·) with
    | [] => e
    | p :: ps =>
      let m := ps.foldl min p
      let e := { e with delta := e.delta + (m - n) * (e.done + 1) }
      let e := label.foldl (step m) e
      rounds label fuel (m + 1) { e with delta := e.delta + 1 }

/-- The bootstring code of a label. -/
def bootstring (label : List Char) : List Char :=
  let plain := label.filter (·.toNat < 0x80)
  let start : List Char := if plain = [] then [] else '-' :: plain.reverse
  (Encoder.rounds label (label.length + 1) 0x80
    ⟨start, plain.length, plain.length, 0, 72⟩).output.reverse

/-! ### Reading -/

/-- Reads one number: its digits, the first at position `k` with weight `w`, added to `i`.  The
number and the weights stay below `2 ^ 32`. -/
def readNumber (bias : Nat) : (i w k : Nat) → List Char → Option (Nat × List Char)
  | _, _, _, [] => none
  | i, w, k, c :: rest => do
    let d ← digitValue? c
    let i := i + d * w
    let t := threshold k bias
    if i ≥ 0x100000000 then none
    else if d < t then some (i, rest)
    else if w * (36 - t) ≥ 0x100000000 then none
    else readNumber bias i (w * (36 - t)) (k + 36) rest

/-- Puts the characters that the rest of a code spells into `done`. -/
def readCode : (fuel n i bias : Nat) → (done : List Char) → List Char → Option (List Char)
  | _, _, _, _, done, [] => some done
  | 0, _, _, _, _, _ => none
  | fuel + 1, n, i, bias, done, code => do
    let (j, rest) ← readNumber bias i 1 36 code
    let size := done.length + 1
    let n := n + j / size
    if n.isValidChar then
      let at_ := j % size
      let done := done.take at_ ++ Char.ofNat n :: done.drop at_
      readCode fuel n (at_ + 1) (adapt (j - i) size (i == 0)) done rest
    else none

/-- The label that a code spells.  The last hyphen is dropped, unless the code begins with it. -/
def ofBootstring? (code : List Char) : Option (List Char) :=
  let tail := (code.reverse.takeWhile (· ≠ '-')).reverse
  let head := code.take (code.length - tail.length)
  if head = ['-'] then none
  else readCode (code.length + 1) 0x80 0 72 head.dropLast tail

end Domain

end ToolRelay
