import ToolRelay.Shell.Plan

/-!
# Basic patterns and substitution

The patterns of line editors: `.`, sets in brackets, repetitions of a single octet, groups in `\(`
and `\)`, and anchors.  `Pattern.ends` lists the ways in which a pattern can match from a place on,
the longest first; a `Substitution` replaces what it matches.
-/

namespace ToolRelay

namespace Shell

/-- What matches a single octet. -/
inductive Single where
  /-- The octet itself. -/
  | octet (c : Char)
  /-- Any octet. -/
  | any
  /-- An octet of these ranges, or of none of them. -/
  | oneOf (negated : Bool) (ranges : List (Char × Char))
  deriving DecidableEq, Repr

/-- Whether an octet is matched. -/
def Single.holds : Single → Char → Bool
  | .octet c, x => x == c
  | .any, _ => true
  | .oneOf negated ranges, x => (ranges.any fun (lo, hi) => lo ≤ x && x ≤ hi) != negated

/-- A part of a pattern. -/
inductive Part where
  /-- One octet. -/
  | one (u : Single)
  /-- Several octets: `lo` at least, and `hi` at most if that is given. -/
  | many (u : Single) (lo : Nat) (hi : Option Nat)
  /-- A group begins. -/
  | openGroup
  /-- A group ends. -/
  | closeGroup
  deriving DecidableEq, Repr

/-- A pattern. -/
structure Pattern where
  /-- Whether it matches at the beginning of a line only. -/
  atStart : Bool
  /-- Whether it matches at the end of a line only. -/
  atFinish : Bool
  /-- Its parts. -/
  parts : List Part
  deriving DecidableEq, Repr

namespace Pattern

/-- The ranges of a class that sets name. -/
def classRanges (name : String) : List (Char × Char) :=
  match name with
  | "alpha" => [('a', 'z'), ('A', 'Z')]
  | "digit" => [('0', '9')]
  | "alnum" => [('a', 'z'), ('A', 'Z'), ('0', '9')]
  | "upper" => [('A', 'Z')]
  | "lower" => [('a', 'z')]
  | "space" => [(' ', ' '), ('\t', '\r')]
  | "blank" => [(' ', ' '), ('\t', '\t')]
  | "punct" => [('!', '/'), (':', '@'), ('[', '\u0060'), ('\x7b', '~')]
  | "xdigit" => [('0', '9'), ('a', 'f'), ('A', 'F')]
  | _ => []

/-- The ranges of a set up to its closing bracket, and what follows; `fuel` of them at most. -/
def ranges : (fuel : Nat) → Octets → List (Char × Char) → Option (List (Char × Char) × Octets)
  | 0, _, _ => none
  | fuel + 1, cs, acc =>
    match cs with
    | [] => none
    | ']' :: rest => some (acc, rest)
    | '[' :: ':' :: rest =>
      let name := rest.takeWhile Char.isAlpha
      match rest.drop name.length with
      | ':' :: ']' :: rest => ranges fuel rest (classRanges (String.ofList name) ++ acc)
      | _ => ranges fuel rest ((':', ':') :: ('[', '[') :: acc)
    | '\\' :: 'n' :: rest => ranges fuel rest (('\n', '\n') :: acc)
    | '\\' :: 't' :: rest => ranges fuel rest (('\t', '\t') :: acc)
    | lo :: '-' :: hi :: rest =>
      if hi = ']' then ranges fuel ('-' :: hi :: rest) ((lo, lo) :: acc)
      else ranges fuel rest ((lo, hi) :: acc)
    | c :: rest => ranges fuel rest ((c, c) :: acc)

/-- A set after its opening bracket, and what follows. -/
def set? (cs : Octets) : Option (Single × Octets) :=
  let (negated, cs) := match cs with
    | '^' :: rest => (true, rest)
    | cs => (false, cs)
  let found := match cs with
    | ']' :: rest => ranges (rest.length + 1) rest [(']', ']')]
    | cs => ranges (cs.length + 1) cs []
  found.map fun (acc, rest) => (.oneOf negated acc, rest)

/-- The bounds of a repetition in braces, and what follows. -/
def bounds? (cs : Octets) : Option (Nat × Option Nat × Octets) :=
  let number (cs : Octets) : Nat := cs.foldl (fun n c => n * 10 + (c.toNat - 0x30)) 0
  let lo := cs.takeWhile Char.isDigit
  match cs.drop lo.length with
  | '\\' :: '\x7d' :: rest => some (number lo, some (number lo), rest)
  | ',' :: rest =>
    let hi := rest.takeWhile Char.isDigit
    match rest.drop hi.length with
    | '\\' :: '\x7d' :: rest =>
      some (number lo, if hi.isEmpty then none else some (number hi), rest)
    | _ => none
  | _ => none

/-- A single octet at the beginning of a pattern, and what follows. -/
def single? (cs : Octets) : Option (Single × Octets) :=
  let word := ('_', '_') :: classRanges "alnum"
  match cs with
  | '\\' :: 'n' :: rest => some (.octet '\n', rest)
  | '\\' :: 't' :: rest => some (.octet '\t', rest)
  | '\\' :: 'w' :: rest => some (.oneOf false word, rest)
  | '\\' :: 'W' :: rest => some (.oneOf true word, rest)
  | '\\' :: 's' :: rest => some (.oneOf false (classRanges "space"), rest)
  | '\\' :: 'S' :: rest => some (.oneOf true (classRanges "space"), rest)
  | '\\' :: c :: rest => some (.octet c, rest)
  | '.' :: rest => some (.any, rest)
  | '[' :: rest => set? rest
  | c :: rest => some (.octet c, rest)
  | [] => none

/-- The parts of a pattern; `fuel` of them at most. -/
def partsOf : (fuel : Nat) → Octets → Option (List Part)
  | 0, _ => none
  | _ + 1, [] => some []
  | fuel + 1, cs => do
    match cs with
    | '\\' :: '(' :: rest => return .openGroup :: (← partsOf fuel rest)
    | '\\' :: ')' :: rest => return .closeGroup :: (← partsOf fuel rest)
    | cs =>
      let (u, rest) ← single? cs
      match rest with
      | '*' :: rest => return .many u 0 none :: (← partsOf fuel rest)
      | '\\' :: '+' :: rest => return .many u 1 none :: (← partsOf fuel rest)
      | '\\' :: '?' :: rest => return .many u 0 (some 1) :: (← partsOf fuel rest)
      | '\\' :: '\x7b' :: rest =>
        let (lo, hi, rest) ← bounds? rest
        return .many u lo hi :: (← partsOf fuel rest)
      | rest => return .one u :: (← partsOf fuel rest)

/-- The pattern that a text spells. -/
def parse? (cs : Octets) : Option Pattern := do
  let (atStart, cs) := match cs with
    | '^' :: rest => (true, rest)
    | cs => (false, cs)
  let atFinish := cs.getLast? == some '$' && cs.dropLast.getLast? != some '\\'
  let parts ← partsOf (cs.length + 1) (if atFinish then cs.dropLast else cs)
  return ⟨atStart, atFinish, parts⟩

/-- How far a match has come. -/
structure Progress where
  /-- The octets ahead. -/
  rest : Octets
  /-- The places where groups that are not closed began, innermost first. -/
  opened : List Octets
  /-- The closed groups: where each began and where it ended. -/
  closed : List (Octets × Octets)

/-- The places that octets which satisfy `p` lead to, the farthest first. -/
def reach (p : Char → Bool) : Octets → List Octets → List Octets
  | [], acc => [] :: acc
  | c :: rest, acc => if p c then reach p rest ((c :: rest) :: acc) else (c :: rest) :: acc

/-- The places that so many octets as the bounds allow lead to, the farthest first. -/
def reachWithin (p : Char → Bool) (lo : Nat) (hi : Option Nat) (cs : Octets) : List Octets :=
  let places := (reach p cs []).reverse
  let places := match hi with
    | some n => places.take (n + 1)
    | none => places
  (places.drop lo).reverse

/-- The ways in which the parts can match, the longest first. -/
def ends : List Part → Progress → List Progress
  | [], s => [s]
  | .one u :: parts, s =>
    match s.rest with
    | c :: rest => if u.holds c then ends parts { s with rest } else []
    | [] => []
  | .many u lo hi :: parts, s =>
    (reachWithin u.holds lo hi s.rest).flatMap fun rest => ends parts { s with rest }
  | .openGroup :: parts, s => ends parts { s with opened := s.rest :: s.opened }
  | .closeGroup :: parts, s =>
    match s.opened with
    | start :: opened => ends parts { s with opened, closed := s.closed ++ [(start, s.rest)] }
    | [] => []

/-- What a pattern matches from a place on, if it does: what is left, and the groups. -/
def matchFrom? (p : Pattern) (cs : Octets) : Option Progress :=
  (ends p.parts ⟨cs, [], []⟩).find? fun s => !p.atFinish || s.rest.isEmpty

/-- Whether a pattern matches anywhere in a text. -/
def isIn (p : Pattern) : Octets → Bool
  | [] => (p.matchFrom? []).isSome
  | c :: rest => (p.matchFrom? (c :: rest)).isSome || (!p.atStart && isIn p rest)

end Pattern

/-- A substitution of what a pattern matches. -/
structure Substitution where
  /-- The pattern. -/
  pattern : Pattern
  /-- What is put in its place, where `\1` and so on stand for the groups. -/
  replacement : Octets
  /-- Which match is the first one to be replaced, from one on. -/
  first : Nat
  /-- Whether the matches after it are replaced too. -/
  everywhere : Bool
  deriving Repr

namespace Substitution

/-- The octets between two places, of which the second is ahead of the first. -/
def between (start finish : Octets) : Octets := start.take (start.length - finish.length)

/-- The replacement for a match that began at `start`. -/
def fill (start : Octets) (s : Pattern.Progress) : Octets → Octets
  | '\\' :: 'n' :: rest => '\n' :: fill start s rest
  | '\\' :: 't' :: rest => '\t' :: fill start s rest
  | '\\' :: c :: rest =>
    if c = '0' then between start s.rest ++ fill start s rest
    else if c.isDigit then
      match s.closed[c.toNat - 0x31]? with
      | some (a, b) => between a b ++ fill start s rest
      | none => fill start s rest
    else c :: fill start s rest
  | '&' :: rest => between start s.rest ++ fill start s rest
  | c :: rest => c :: fill start s rest
  | [] => []

/-- How far a substitution has come along a line. -/
structure Progress where
  /-- What has been made of the line so far, last first. -/
  done : Octets
  /-- How many octets belong to the last match. -/
  skipped : Nat
  /-- How many matches there have been. -/
  count : Nat
  /-- Whether more matches are looked for. -/
  isActive : Bool
  /-- Whether the last match ended right here, so that an empty one does not count. -/
  justMatched : Bool

namespace Progress

/-- Goes on after a match that began at `start`; the match is replaced or kept. -/
def afterMatch (t : Substitution) (p : Progress) (start : Octets) (s : Pattern.Progress) :
    Progress :=
  let n := p.count + 1
  let isReplaced := n = t.first || (t.everywhere && t.first < n)
  let text := if isReplaced then fill start s t.replacement else between start s.rest
  { done := text.reverse ++ p.done
    skipped := start.length - s.rest.length
    count := n
    isActive := !t.pattern.atStart && (t.everywhere || n < t.first)
    justMatched := start.length != s.rest.length }

/-- Looks for a match here. -/
def here (t : Substitution) (p : Progress) (start : Octets) : Progress :=
  if !p.isActive then p
  else
    match t.pattern.matchFrom? start with
    | some s =>
      if p.justMatched && s.rest.length = start.length then { p with justMatched := false }
      else p.afterMatch t start s
    | none => { p with justMatched := false, isActive := !t.pattern.atStart }

end Progress

/-- Goes along a line. -/
def along (t : Substitution) : Progress → Octets → Progress
  | p, [] => p.here t []
  | p, c :: rest =>
    let q := if p.skipped = 0 then p.here t (c :: rest) else p
    along t
      (if q.skipped = 0 then { q with done := c :: q.done }
        else { q with skipped := q.skipped - 1 })
      rest

/-- The line after the substitution, and whether anything was replaced. -/
def apply (t : Substitution) (line : Octets) : Octets × Bool :=
  let p := along t ⟨[], 0, 0, true, false⟩ line
  (p.done.reverse, t.first ≤ p.count)

end Substitution

end Shell

end ToolRelay
