import ToolRelay.Glob.Match

/-!
# Patterns as regular expressions

What is matched token by token is first spelled as a regular expression and compiled.  Two things
are limited there: how deeply an expression is nested, and how large the compiled program is.
`Glob.overload?` says whether expressions that are compiled together stay below both limits.
-/

namespace ToolRelay

namespace Glob

/-! ### Spelling -/

/-- Whether a character means something in an expression, so that it must be escaped. -/
def isMeta (c : Char) : Bool :=
  c == '\\' || c == '.' || c == '+' || c == '*' || c == '?' || c == '(' || c == ')' || c == '|' ||
    c == '[' || c == ']' || c == '\x7b' || c == '\x7d' || c == '^' || c == '$' || c == '#' ||
    c == '&' || c == '-' || c == '~'

/-- A hexadecimal digit. -/
def hexDigit (n : Nat) : Char := if n < 10 then Char.ofNat (0x30 + n) else Char.ofNat (0x57 + n)

/-- An octet in an expression. -/
def spellOctet (b : UInt8) : List Char :=
  if b.toNat < 0x80 then
    let c := Char.ofNat b.toNat
    if isMeta c then ['\\', c] else [c]
  else ['\\', 'x', hexDigit (b.toNat / 16), hexDigit (b.toNat % 16)]

/-- A character in an expression. -/
def spellChar (c : Char) : List Char := (String.utf8EncodeChar c).flatMap spellOctet

/-- A range of a class in an expression. -/
def spellRange (range : Char × Char) : List Char :=
  if range.1 = range.2 then spellChar range.1 else spellChar range.1 ++ '-' :: spellChar range.2

mutual

/-- A token in an expression. -/
def Token.spell : Token → List Char
  | .literal c => spellChar c
  | .any => ['.']
  | .star => ['.', '*']
  | .recursivePrefix_ => "(?:/?|.*/)".toList
  | .recursiveSuffix => "/.*".toList
  | .recursiveMiddle => "(?:/|/.*/)".toList
  | .class_ negated ranges =>
    '[' :: (if negated then ['^'] else []) ++ ranges.flatMap spellRange ++ [']']
  | .alternates branches =>
    match spellBranches branches with
    | [] => []
    | parts => "(?:".toList ++ List.intercalate ['|'] parts ++ [')']

/-- Alternatives in an expression, without those that are nothing at all. -/
def spellBranches : List (List Token) → List (List Char)
  | [] => []
  | branch :: rest =>
    match spellAll branch with
    | [] => spellBranches rest
    | part => part :: spellBranches rest

/-- Tokens in an expression. -/
def spellAll : List Token → List Char
  | [] => []
  | t :: rest => t.spell ++ spellAll rest

end

/-- The expression for a pattern. -/
def expression (ts : List Token) : String :=
  String.ofList ("(?-u)^".toList ++
    (match ts with
      | [.recursivePrefix_] => ".*".toList
      | ts => spellAll ts) ++ ['$'])

/-! ### Nesting -/

/-- How many octets a character has. -/
def octetCount (c : Char) : Nat := (String.utf8EncodeChar c).length

/-- How many members a range is in a class. -/
def rangeMembers (range : Char × Char) : Nat :=
  if range.1 = range.2 then octetCount range.1
  else octetCount range.1 + octetCount range.2 - 1

/-- How many members a class has. -/
def classMembers (ranges : List (Char × Char)) : Nat :=
  ranges.foldl (fun n range => n + rangeMembers range) 0

/-- How many parts a token has where it is part of a sequence. -/
def Token.parts : Token → Nat
  | .literal c => octetCount c
  | .recursiveSuffix => 2
  | .alternates branches => if allVoid branches then 0 else 1
  | _ => 1

/-- One level more if there are several parts. -/
def levelIf (several : Nat) (depth : Nat) : Nat := if several < 2 then depth else depth + 1

mutual

/-- How deeply a token is nested. -/
def Token.nesting : Token → Nat
  | .literal _ => 0
  | .any => 0
  | .star => 1
  | .recursivePrefix_ => 4
  | .recursiveSuffix => 1
  | .recursiveMiddle => 4
  | .class_ _ ranges => levelIf (classMembers ranges) 1
  | .alternates branches =>
    let (count, depth) := nestBranches branches
    if count = 0 then 0 else levelIf count depth + 1

/-- How many alternatives are something, and how deeply they are nested. -/
def nestBranches : List (List Token) → Nat × Nat
  | [] => (0, 0)
  | branch :: rest =>
    let (count, depth) := nestBranches rest
    let (parts, inner) := nestAll branch
    if parts = 0 then (count, depth) else (count + 1, max depth (levelIf parts inner))

/-- How many parts tokens have, and how deeply they are nested. -/
def nestAll : List Token → Nat × Nat
  | [] => (0, 0)
  | t :: rest =>
    let (parts, depth) := nestAll rest
    (t.parts + parts, max t.nesting depth)

end

/-- How deeply the expression of a pattern is nested. -/
def nesting (ts : List Token) : Nat := (nestAll ts).2 + 1

/-! ### Size -/

/-- The size of one state of a program. -/
def stateSize : Nat := 32

/-- The size of the states for a class with the given number of ranges. -/
def classSize (ranges : Nat) : Nat := 2 * stateSize + 8 * ranges

/-- The size of the states for several alternatives, without the alternatives. -/
def choiceSize (count : Nat) : Nat := if count < 2 then 0 else 2 * stateSize + 4 * count

/-- The size of the states for any octets. -/
def starSize : Nat := stateSize + 8 + classSize 1

mutual

/-- The size of the states for a token. -/
def Token.size : Token → Nat
  | .literal c => stateSize * octetCount c
  | .any => classSize 1
  | .star => starSize
  | .recursivePrefix_ => choiceSize 2 + (3 * stateSize + 8) + (starSize + stateSize)
  | .recursiveSuffix => stateSize + starSize
  | .recursiveMiddle => choiceSize 2 + stateSize + (starSize + 2 * stateSize)
  | .class_ negated ranges => classSize (ranges.length + if negated then 1 else 0)
  | .alternates branches =>
    let (count, size) := sizeBranches branches
    choiceSize count + size

/-- How many alternatives are something, and the size of the states for them. -/
def sizeBranches : List (List Token) → Nat × Nat
  | [] => (0, 0)
  | branch :: rest =>
    let (count, size) := sizeBranches rest
    if areVoid branch then (count, size) else (count + 1, size + sizeAll branch)

/-- The size of the states for tokens. -/
def sizeAll : List Token → Nat
  | [] => 0
  | t :: rest => t.size + sizeAll rest

end

/-- The size of the program for a pattern: that of its tokens, of the tests for both ends of the
path, and of what says that the pattern has been found and where. -/
def programSize (ts : List Token) : Nat := 5 * stateSize + sizeAll ts

/-! ### Limits -/

/-- How deeply an expression may be nested. -/
def maxNesting : Nat := 250

/-- How large a program may be. -/
def maxSize : Nat := 0xA00000

/-- Why expressions cannot be compiled. -/
inductive Overload where
  /-- The expression with this number is nested too deeply. -/
  | tooDeep (index : Nat)
  /-- The program is too large. -/
  | tooLarge
  deriving DecidableEq, Repr

/-- The reason in words. -/
def Overload.message : Overload → String
  | .tooDeep index => "error parsing pattern " ++ toString index
  | .tooLarge => "error building NFA"

/-- Why patterns cannot be compiled together, if they cannot. -/
def overload? (patterns : List (List Token)) : Option Overload :=
  match patterns.findIdx? fun ts => maxNesting < nesting ts with
  | some index => some (.tooDeep index)
  | none =>
    let size := patterns.foldl (fun n ts => n + programSize ts)
      (stateSize + choiceSize patterns.length)
    if maxSize < size then some .tooLarge else none

end Glob

end ToolRelay
