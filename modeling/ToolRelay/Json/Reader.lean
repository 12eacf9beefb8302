import ToolRelay.Json.Complaint
import ToolRelay.Text.Cursor

/-!
# Reading JSON text: blanks, words, texts and numbers

A reader goes through a text from a `Text.Cursor`, which counts the octets behind it, because that
is how places are told.  When a reader fails, the cursor stays where the reader gave up: a complaint
without a place gets it there.
-/

namespace ToolRelay

namespace Json

/-- A computation that goes through a text. -/
abbrev Reader (α : Type) := EStateM Fault Text.Cursor α

namespace Reader

/-- The next character, which stays ahead. -/
def peek : Reader (Option Char) := fun c => .ok c.rest.head? c

/-- Goes past the next character. -/
def advance : Reader Unit := fun c =>
  match c.rest with
  | [] => .ok () c
  | x :: rest => .ok () ⟨c.index + x.utf8Size, rest⟩

/-- The next character, which is then behind. -/
def next : Reader (Option Char) := fun c =>
  match c.rest with
  | [] => .ok none c
  | x :: rest => .ok (some x) ⟨c.index + x.utf8Size, rest⟩

/-- Fails at the cursor. -/
def failHere {α : Type} (complaint : Complaint) : Reader α := fun c =>
  .error ⟨complaint, some c.index⟩ c

/-- Fails at the next character. -/
def failAhead {α : Type} (complaint : Complaint) : Reader α := fun c =>
  .error ⟨complaint, some (if c.rest.isEmpty then c.index else c.index + 1)⟩ c

/-- Fails at no place yet. -/
def failUnplaced {α : Type} (complaint : Complaint) : Reader α := fun c =>
  .error ⟨complaint, none⟩ c

/-- `r`, where a failure without a place gets the place of the cursor. -/
def placed {α : Type} (r : Reader α) : Reader α := fun c =>
  match r c with
  | .ok a c => .ok a c
  | .error f c => .error ⟨f.complaint, some (f.index.getD c.index)⟩ c

/-- `inner`, then `closing` also when `inner` fails; of two failures the first counts. -/
def closedBy {α : Type} (inner : Reader α) (closing : Reader Unit) : Reader α := fun c =>
  match inner c with
  | .ok a c =>
    match closing c with
    | .ok _ c => .ok a c
    | .error f c => .error f c
  | .error f c =>
    match closing c with
    | .ok _ c => .error f c
    | .error _ c => .error f c

/-- Whether a character is blank in JSON. -/
def isBlank (c : Char) : Bool := c == ' ' || c == '\n' || c == '\t' || c == '\r'

/-- Goes past blanks. -/
def skipBlanks : Reader Unit := fun c =>
  let blanks := c.rest.takeWhile isBlank
  .ok () ⟨c.index + blanks.length, c.rest.drop blanks.length⟩

/-- Goes past blanks; the character after them, which stays ahead. -/
def peekFull : Reader (Option Char) := do
  skipBlanks
  peek

/-- Goes past the given characters. -/
def word : List Char → Reader Unit
  | [] => pure ()
  | x :: xs => do
    match ← next with
    | none => failHere .endInValue
    | some y => if y = x then word xs else failHere .wordDue

/-! ### Texts -/

/-- The character that a letter means after a backslash. -/
def simpleEscape? (c : Char) : Option Char :=
  match c with
  | '"' => some '"'
  | '\\' => some '\\'
  | '/' => some '/'
  | 'b' => some '\x08'
  | 'f' => some '\x0c'
  | 'n' => some '\n'
  | 'r' => some '\r'
  | 't' => some '\t'
  | _ => none

/-- The value of a hexadecimal digit. -/
def hexValue? (c : Char) : Option Nat :=
  let n := c.toNat
  if 0x30 ≤ n ∧ n ≤ 0x39 then some (n - 0x30)
  else if 0x41 ≤ n ∧ n ≤ 0x46 then some (n - 0x37)
  else if 0x61 ≤ n ∧ n ≤ 0x66 then some (n - 0x57)
  else none

/-- The code unit that four hexadecimal digits spell. -/
def codeUnit? (a b c d : Char) : Option Nat := do
  let a ← hexValue? a
  let b ← hexValue? b
  let c ← hexValue? c
  let d ← hexValue? d
  pure (((a * 16 + b) * 16 + c) * 16 + d)

/-- The first half of a pair of code units. -/
def isHigh (n : Nat) : Bool := 0xD800 ≤ n && n ≤ 0xDBFF

/-- The second half of a pair of code units. -/
def isLow (n : Nat) : Bool := 0xDC00 ≤ n && n ≤ 0xDFFF

/-- The character that a pair of code units stands for. -/
def paired (high low : Nat) : Char :=
  Char.ofNat ((high - 0xD800) * 0x400 + (low - 0xDC00) + 0x10000)

/-- The octets of a list of characters, counted. -/
def octets (cs : List Char) : Nat := cs.foldl (fun n c => n + c.utf8Size) 0

/-- A failure at an index, with the cursor there. -/
def failAt {α : Type} (complaint : Complaint) (index : Nat) (rest : List Char) :
    EStateM.Result Fault Text.Cursor α :=
  .error ⟨complaint, some index⟩ ⟨index, rest⟩

/-- A failure because `cs`, which lie ahead of `index`, do not begin with four hexadecimal digits:
four octets are behind the cursor then, if there are so many. -/
def failHex {α : Type} (index : Nat) (cs : List Char) : EStateM.Result Fault Text.Cursor α :=
  if octets cs < 4 then failAt .endInText (index + octets cs) []
  else failAt .badEscape (index + 4) (cs.drop 4)

/-- The rest of a text after its opening quote; `done` holds the characters read so far, last
first. -/
def textBody (index : Nat) (done : List Char) :
    List Char → EStateM.Result Fault Text.Cursor String
  | [] => failAt .endInText index []
  | c :: rest =>
    if c = '"' then .ok (String.ofList done.reverse) ⟨index + 1, rest⟩
    else if c = '\\' then
      match rest with
      | [] => failAt .endInText (index + 1) []
      | e :: rest =>
        match simpleEscape? e with
        | some x => textBody (index + 2) (x :: done) rest
        | none =>
          if e = 'u' then
            match rest with
            | a :: b :: c :: d :: rest =>
              match codeUnit? a b c d with
              | none => failHex (index + 2) (a :: b :: c :: d :: rest)
              | some high =>
                if isLow high then failAt .loneSurrogate (index + 6) rest
                else if isHigh high then
                  match rest with
                  | [] => failAt .endInText (index + 6) []
                  | '\\' :: rest =>
                    match rest with
                    | [] => failAt .endInText (index + 7) []
                    | 'u' :: rest =>
                      match rest with
                      | a :: b :: c :: d :: rest =>
                        match codeUnit? a b c d with
                        | none => failHex (index + 8) (a :: b :: c :: d :: rest)
                        | some low =>
                          if isLow low then textBody (index + 12) (paired high low :: done) rest
                          else failAt .loneSurrogate (index + 12) rest
                      | rest => failHex (index + 8) rest
                    | _ :: rest => failAt .secondHalfDue (index + 8) rest
                  | _ :: rest => failAt .secondHalfDue (index + 7) rest
                else textBody (index + 6) (Char.ofNat high :: done) rest
            | rest => failHex (index + 2) rest
          else failAt .badEscape (index + 2) rest
    else if c.toNat < 0x20 then failAt .controlCharacter (index + 1) rest
    else textBody (index + c.utf8Size) (c :: done) rest

/-- The rest of a text after its opening quote. -/
def text : Reader String := fun c => textBody c.index [] c.rest

/-- Goes to the end of a text after its opening quote, whatever its code units mean. -/
def skipTextBody (index : Nat) : List Char → EStateM.Result Fault Text.Cursor Unit
  | [] => failAt .endInText index []
  | c :: rest =>
    if c = '"' then .ok () ⟨index + 1, rest⟩
    else if c = '\\' then
      match rest with
      | [] => failAt .endInText (index + 1) []
      | e :: rest =>
        if (simpleEscape? e).isSome then skipTextBody (index + 2) rest
        else if e = 'u' then
          match rest with
          | a :: b :: c :: d :: rest =>
            match codeUnit? a b c d with
            | none => failHex (index + 2) (a :: b :: c :: d :: rest)
            | some _ => skipTextBody (index + 6) rest
          | rest => failHex (index + 2) rest
        else failAt .badEscape (index + 2) rest
    else if c.toNat < 0x20 then failAt .controlCharacter index (c :: rest)
    else skipTextBody (index + c.utf8Size) rest

/-- Goes to the end of a text after its opening quote. -/
def skipText : Reader Unit := fun c => skipTextBody c.index c.rest

/-! ### Numbers -/

/-- Whether a character is a decimal digit. -/
def isDigit (c : Char) : Bool := 0x30 ≤ c.toNat && c.toNat ≤ 0x39

/-- The value of a decimal digit. -/
def digitValue (c : Char) : Nat := c.toNat - 0x30

/-- Goes past digits and gives them. -/
def digits : Reader (List Char) := fun c =>
  let ds := c.rest.takeWhile isDigit
  .ok ds ⟨c.index + ds.length, c.rest.drop ds.length⟩

/-- The greatest integer. -/
def maxInt : Nat := 0xFFFFFFFFFFFFFFFF

/-- Appends digits to `n` as long as the number stays an integer; the digits left over. -/
def absorb (n : Nat) : List Char → Nat × List Char
  | [] => (n, [])
  | d :: ds =>
    if n * 10 + digitValue d ≤ maxInt then absorb (n * 10 + digitValue d) ds else (n, d :: ds)

/-- `10 ^ n` as a floating-point number. -/
def powerOfTen? (n : Nat) : Option Binary64 := Binary64.ofNat? (Nat.pow 10 n)

/-- `x * 10 ^ exponent`, where the power of ten is rounded first.  Exponents beyond 308 are taken
in steps of 308; at most `steps` are taken. -/
def scale? (x : Binary64) (exponent : Int) : Nat → Option Binary64
  | 0 => some x
  | steps + 1 =>
    if exponent.natAbs ≤ 308 then do
      let power ← powerOfTen? exponent.natAbs
      if 0 ≤ exponent then x.mul? power else x.div? power
    else if x.isZero then some x
    else if 0 ≤ exponent then none
    else do
      let power ← powerOfTen? 308
      scale? (← x.div? power) (exponent + 308) steps

/-- A floating-point number with its sign, unless it is too large. -/
def signed (negative : Bool) : Option Binary64 → Reader Json
  | some x => pure (.real (x.withSign negative))
  | none => failHere .numberTooLarge

/-- The floating-point number `significand * 10 ^ exponent`. -/
def real (negative : Bool) (significand : Nat) (exponent : Int) : Reader Json :=
  signed negative ((Binary64.ofNat? significand).bind fun x =>
    scale? x exponent (exponent.natAbs / 308 + 1))

/-- The greatest exponent that is told from greater ones. -/
def maxExponent : Nat := 0x7FFFFFFF

/-- Appends exponent digits to `n` until the exponent is too great; `none` if that happens. -/
def exponentDigits (n : Nat) : Reader (Option Nat) := fun c =>
  go c.index n c.rest
where
  /-- The digits ahead, from `index` on. -/
  go (index n : Nat) : List Char → EStateM.Result Fault Text.Cursor (Option Nat)
    | [] => .ok (some n) ⟨index, []⟩
    | d :: rest =>
      if isDigit d then
        if n * 10 + digitValue d ≤ maxExponent then go (index + 1) (n * 10 + digitValue d) rest
        else .ok none ⟨index + 1, rest⟩
      else .ok (some n) ⟨index, d :: rest⟩

/-- The exponent `e`, kept between the ends of the 32-bit integers. -/
def clampExponent (e : Int) : Int := max (-0x80000000) (min 0x7FFFFFFF e)

/-- The part of a number from its `e` on. -/
def exponentPart (negative : Bool) (significand : Nat) (exponent : Int) : Reader Json := do
  advance
  let below ← do
    match ← peek with
    | some '+' => advance; pure false
    | some '-' => advance; pure true
    | _ => pure false
  match ← next with
  | none => failHere .endInValue
  | some d =>
    if isDigit d then
      match ← exponentDigits (digitValue d) with
      | some e =>
        real negative significand
          (clampExponent (if below then exponent - (e : Int) else exponent + (e : Int)))
      | none =>
        if significand ≠ 0 ∧ below = false then failHere .numberTooLarge
        else do
          let _ ← digits
          pure (.real (Binary64.zero negative))
    else failHere .badNumber

/-- A floating-point number whose digits have been read, up to its exponent. -/
def afterDigits (negative : Bool) (significand : Nat) (exponent : Int) : Reader Json := do
  match ← peek with
  | some 'e' => exponentPart negative significand exponent
  | some 'E' => exponentPart negative significand exponent
  | _ => real negative significand exponent

/-- The part of a number from its point on.  Digits that the significand cannot take are
dropped. -/
def fractionPart (negative : Bool) (significand : Nat) (exponent : Int) : Reader Json := do
  advance
  match ← digits with
  | [] =>
    match ← peek with
    | some _ => failAhead .badNumber
    | none => failAhead .endInValue
  | ds =>
    let (n, left) := absorb significand ds
    afterDigits negative n (exponent - ((ds.length - left.length : Nat) : Int))

/-- The part of a number after its integer digits, which gave `significand` and `dropped` digits
more. -/
def afterInteger (negative : Bool) (significand dropped : Nat) : Reader Json := do
  match ← peek with
  | some '.' => fractionPart negative significand dropped
  | some 'e' => exponentPart negative significand dropped
  | some 'E' => exponentPart negative significand dropped
  | _ =>
    if dropped ≠ 0 then real negative significand dropped
    else if negative then
      if 0 < significand ∧ significand ≤ 0x8000000000000000 then pure (.int (-(significand : Int)))
      else real true significand 0
    else pure (.int significand)

/-- A number after its sign. -/
def number (negative : Bool) : Reader Json := do
  match ← next with
  | none => failHere .endInValue
  | some '0' =>
    match ← peek with
    | some d => if isDigit d then failAhead .badNumber else afterInteger negative 0 0
    | none => afterInteger negative 0 0
  | some d =>
    if isDigit d then
      let ds ← digits
      let (n, left) := absorb (digitValue d) ds
      afterInteger negative n left.length
    else failHere .badNumber

/-- Goes past the exponent of a number that is not needed. -/
def skipExponent : Reader Unit := do
  advance
  match ← peek with
  | some '+' => advance
  | some '-' => advance
  | _ => pure ()
  match ← next with
  | some d => if isDigit d then let _ ← digits; pure () else failHere .badNumber
  | none => failHere .badNumber

/-- Goes past a number that is not needed, after its sign. -/
def skipNumber : Reader Unit := do
  match ← next with
  | some '0' =>
    match ← peek with
    | some d => if isDigit d then failAhead .badNumber else skipFraction
    | none => skipFraction
  | some d => if isDigit d then do let _ ← digits; skipFraction else failHere .badNumber
  | none => failHere .badNumber
where
  /-- Goes past the fraction and the exponent. -/
  skipFraction : Reader Unit := do
    match ← peek with
    | some '.' =>
      advance
      match ← digits with
      | [] => failAhead .badNumber
      | _ =>
        match ← peek with
        | some 'e' => skipExponent
        | some 'E' => skipExponent
        | _ => pure ()
    | some 'e' => skipExponent
    | some 'E' => skipExponent
    | _ => pure ()

end Reader

end Json

end ToolRelay
