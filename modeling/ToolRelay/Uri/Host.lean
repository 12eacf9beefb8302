import ToolRelay.Domain.Name

/-!
# Hosts

The host of a URI is a name or an address.  A scheme that everybody knows has hosts of the
internet: a name in its ASCII form, or an IPv4 address when its last part is a number.  Any other
scheme keeps the host as it was written.  An IPv6 address stands in brackets.
-/

namespace ToolRelay

namespace Uri

/-- Why a text is no URI. -/
inductive Flaw where
  /-- There is no scheme. -/
  | noScheme
  /-- The host is missing. -/
  | noHost
  /-- The host is no name in any alphabet. -/
  | badName
  /-- The host has a character that no host may have. -/
  | badHostCharacter
  /-- What follows the colon is no number below `2 ^ 16`. -/
  | badSocket
  /-- The host looks like an IPv4 address and is none. -/
  | badIPv4
  /-- The host looks like an IPv6 address and is none. -/
  | badIPv6
  deriving DecidableEq, Repr

/-- The flaw in words. -/
def Flaw.message : Flaw → String
  | .noScheme => "relative URL without a base"
  | .noHost => "empty host"
  | .badName => "invalid international domain name"
  | .badHostCharacter => "invalid domain character"
  | .badSocket => "invalid port number"
  | .badIPv4 => "invalid IPv4 address"
  | .badIPv6 => "invalid IPv6 address"

/-- A host. -/
inductive Host where
  /-- A name. -/
  | name (cs : List Char)
  /-- An IPv4 address, as one number. -/
  | v4 (address : Nat)
  /-- An IPv6 address, as eight numbers. -/
  | v6 (pieces : List Nat)
  deriving DecidableEq, Repr

/-! ### IPv4 -/

/-- Whether a character is a digit in the given base, at most 16. -/
def isDigit (base : Nat) (c : Char) : Bool :=
  match Percent.digitValue? (UInt8.ofNat c.toNat) with
  | some d => c.toNat < 0x80 && d < base
  | none => false

/-- The number that digits in the given base spell. -/
def ofDigits (base : Nat) (cs : List Char) : Nat :=
  cs.foldl (fun n c => n * base + (Percent.digitValue? (UInt8.ofNat c.toNat)).getD 0) 0

/-- The number that a part of an address spells: decimal, octal after a `0`, or hexadecimal after
`0x`. -/
def number? (part : List Char) : Option Nat :=
  let read (base : Nat) (ds : List Char) : Option Nat :=
    if ds.all (isDigit base) then some (ofDigits base ds) else none
  match part with
  | [] => none
  | '0' :: 'x' :: ds => read 16 ds
  | '0' :: 'X' :: ds => read 16 ds
  | ['0'] => some 0
  | '0' :: ds => read 8 ds
  | ds => read 10 ds

/-- Whether the last part of a name that is not empty is a number. -/
def endsInNumber (cs : List Char) : Bool :=
  let parts := (Domain.labels cs).reverse
  let last? := match parts with
    | [] :: part :: _ => some part
    | [] :: [] => none
    | part :: _ => some part
    | [] => none
  match last? with
  | none => false
  | some part => (part ≠ [] && part.all (isDigit 10)) || (number? part).isSome

/-- The address that a name spells. -/
def ipv4? (cs : List Char) : Option Nat := do
  let parts := Domain.labels cs
  let parts := if parts.getLast? = some [] then parts.dropLast else parts
  if parts.length > 4 then none
  else
    let numbers ← parts.mapM number?
    let last ← numbers.getLast?
    let front := numbers.dropLast
    if last ≥ Nat.pow 256 (4 - front.length) ∨ front.any (255 < ·) then none
    else some (front.foldl (fun n d => n * 256 + d) 0 * Nat.pow 256 (4 - front.length) + last)

/-! ### IPv6 -/

/-- Where the reader of an IPv6 address stands. -/
structure Pieces where
  /-- The numbers read so far, last first. -/
  read : List Nat
  /-- How many numbers came before the gap, if there was one. -/
  gap : Option Nat
  deriving Repr

/-- The numbers of an address, filled up with zeros at the gap. -/
def Pieces.fill? (p : Pieces) : Option (List Nat) :=
  match p.gap with
  | none => if p.read.length = 8 then some p.read.reverse else none
  | some n =>
    if p.read.length ≤ 7 then
      let ps := p.read.reverse
      some (ps.take n ++ List.replicate (8 - ps.length) 0 ++ ps.drop n)
    else none

/-- One number of the dotted part of an address: decimal, at most 255, without a leading zero. -/
def dottedNumber? (ds : List Char) : Option Nat :=
  match ds with
  | [] => none
  | ['0'] => some 0
  | '0' :: _ => none
  | ds => if ds.all (isDigit 10) ∧ ofDigits 10 ds ≤ 255 then some (ofDigits 10 ds) else none

/-- The two numbers that the dotted part at the end of an address stands for. -/
def dotted? (cs : List Char) : Option (List Nat) := do
  match ← (Domain.labels cs).mapM dottedNumber? with
  | [a, b, c, d] => some [a * 256 + b, c * 256 + d]
  | _ => none

/-- Reads the rest of an address; `fuel` above its length is enough. -/
def readPieces (p : Pieces) : (fuel : Nat) → List Char → Option (List Nat)
  | _, [] => p.fill?
  | 0, _ => none
  | fuel + 1, cs =>
    let used := p.read.length + (if p.gap.isSome then 1 else 0)
    if used = 8 then none
    else
      match cs with
      | ':' :: rest =>
        if p.gap.isSome then none
        else readPieces { p with gap := some p.read.length } fuel rest
      | cs =>
        let ds := (cs.take 4).takeWhile (isDigit 16)
        match cs.drop ds.length with
        | [] => readPieces { p with read := ofDigits 16 ds :: p.read } fuel []
        | '.' :: _ =>
          if ds = [] ∨ used > 6 then none
          else do
            let two ← dotted? cs
            Pieces.fill? { p with read := two.reverse ++ p.read }
        | ':' :: rest =>
          if rest = [] then none
          else readPieces { p with read := ofDigits 16 ds :: p.read } fuel rest
        | _ => none

/-- The address that the text between brackets spells. -/
def ipv6? (cs : List Char) : Option (List Nat) :=
  match cs with
  | [] => none
  | [_] => none
  | ':' :: ':' :: rest => readPieces ⟨[], some 0⟩ (rest.length + 1) rest
  | ':' :: _ => none
  | cs => readPieces ⟨[], none⟩ (cs.length + 1) cs

/-- The longest run of zeros: where it starts and how long it is; the first of equal ones. -/
def longestZeros (ps : List Nat) : Nat × Nat :=
  let step := fun ((index, run, best) : Nat × Nat × (Nat × Nat)) (p : Nat) =>
    let run := if p = 0 then run + 1 else 0
    (index + 1, run, if best.2 < run then (index + 1 - run, run) else best)
  (ps.foldl step (0, 0, (0, 0))).2.2

/-- Numbers in hexadecimal digits, with colons between. -/
def colons (ps : List Nat) : List Char := List.intercalate [':'] (ps.map (Nat.toDigits 16))

/-- The written form of a host. -/
def Host.spell : Host → List Char
  | .name cs => cs
  | .v4 n =>
    List.intercalate ['.']
      ([n / 0x1000000 % 256, n / 0x10000 % 256, n / 0x100 % 256, n % 256].map (Nat.toDigits 10))
  | .v6 ps =>
    let (start, run) := longestZeros ps
    if run < 2 then '[' :: colons ps ++ [']']
    else '[' :: colons (ps.take start) ++ [':', ':'] ++ colons (ps.drop (start + run)) ++ [']']

/-! ### Reading -/

/-- A host in brackets, if `cs` begins with one. -/
def bracketed? (cs : List Char) : Option (Except Flaw Host) :=
  match cs with
  | '[' :: rest =>
    if rest.getLast? = some ']' then
      match ipv6? rest.dropLast with
      | some ps => some (.ok (.v6 ps))
      | none => some (.error .badIPv6)
    else some (.error .badIPv6)
  | _ => none

/-- The host of a scheme that everybody knows. -/
def Host.ofText (cs : List Char) : Except Flaw Host :=
  match bracketed? cs with
  | some answer => answer
  | none =>
    match Domain.toAscii? (Percent.decode (cs.flatMap String.utf8EncodeChar)) with
    | none => .error .badName
    | some [] => .error .noHost
    | some ascii =>
      if endsInNumber ascii then
        match ipv4? ascii with
        | some n => .ok (.v4 n)
        | none => .error .badIPv4
      else .ok (.name ascii)

/-- Characters that no host may have. -/
def isNoHostCharacter (c : Char) : Bool :=
  c == '\x00' || c == '\t' || c == '\n' || c == '\r' || c == ' ' || c == '#' || c == '/' ||
    c == ':' || c == '<' || c == '>' || c == '?' || c == '@' || c == '[' || c == '\\' ||
    c == ']' || c == '^' || c == '|'

/-- The host of any other scheme. -/
def Host.ofPlainText (cs : List Char) : Except Flaw Host :=
  match bracketed? cs with
  | some answer => answer
  | none =>
    if cs.any isNoHostCharacter then .error .badHostCharacter
    else .ok (.name (cs.flatMap (Percent.encodeChar Percent.controls)))

end Uri

end ToolRelay
