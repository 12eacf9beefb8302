import ToolRelay.Shell.Plan

/-!
# Wildcards

The patterns by which the shell tells texts apart: `*`, `?` and sets in brackets.  Octets that are
quoted stand for themselves.
-/

namespace ToolRelay

namespace Shell

/-- A part of a pattern. -/
inductive Wildcard where
  /-- An octet. -/
  | octet (c : Char)
  /-- Any octet. -/
  | any
  /-- Any number of octets. -/
  | many
  /-- An octet of these ranges, or of none of them. -/
  | oneOf (negated : Bool) (ranges : List (Char × Char))
  deriving DecidableEq, Repr

namespace Wildcard

/-- Octets, and for each whether it may have a meaning of its own. -/
abbrev Marked := List (Char × Bool)

/-- The ranges of a set up to its closing bracket, and what follows; `fuel` of them at most. -/
def ranges : (fuel : Nat) → (isFirst : Bool) → Marked → Option (List (Char × Char) × Marked)
  | 0, _, _ => none
  | _ + 1, _, [] => none
  | fuel + 1, isFirst, (c, _) :: rest =>
    if c = ']' ∧ !isFirst then some ([], rest)
    else
      match rest with
      | ('-', _) :: (hi, _) :: more =>
        if hi = ']' then
          (ranges fuel false rest).map fun (others, after) => ((c, c) :: others, after)
        else (ranges fuel false more).map fun (others, after) => ((c, hi) :: others, after)
      | _ => (ranges fuel false rest).map fun (others, after) => ((c, c) :: others, after)

/-- A set after its opening bracket, and what follows. -/
def set? (cs : Marked) : Option (Wildcard × Marked) :=
  let (negated, cs) := match cs with
    | ('!', true) :: rest => (true, rest)
    | cs => (false, cs)
  (ranges (cs.length + 1) true cs).map fun (found, rest) => (.oneOf negated found, rest)

/-- The parts of a pattern; `fuel` of them at most. -/
def partsOf : (fuel : Nat) → Marked → List Wildcard
  | 0, _ => []
  | _ + 1, [] => []
  | fuel + 1, ('*', true) :: rest => .many :: partsOf fuel rest
  | fuel + 1, ('?', true) :: rest => .any :: partsOf fuel rest
  | fuel + 1, ('[', true) :: rest =>
    match set? rest with
    | some (part, rest) => part :: partsOf fuel rest
    | none => .octet '[' :: partsOf fuel rest
  | fuel + 1, (c, _) :: rest => .octet c :: partsOf fuel rest

/-- The pattern that octets spell. -/
def ofMarked (cs : Marked) : List Wildcard := partsOf cs.length cs

/-- Whether a part matches an octet. -/
def holds : Wildcard → Char → Bool
  | .octet c, x => x == c
  | .any, _ | .many, _ => true
  | .oneOf negated ranges, x => (ranges.any fun (lo, hi) => lo ≤ x && x ≤ hi) != negated

/-- Whether a pattern matches octets as a whole. -/
def matchesAll : List Wildcard → Octets → Bool
  | [], cs => cs.isEmpty
  | .many :: parts, cs => (List.range (cs.length + 1)).any fun n => matchesAll parts (cs.drop n)
  | _ :: _, [] => false
  | part :: parts, c :: cs => part.holds c && matchesAll parts cs

/-- The octets without the shortest or the longest beginning that a pattern matches. -/
def withoutStart (parts : List Wildcard) (longest : Bool) (cs : Octets) : Octets :=
  let sizes := List.range (cs.length + 1)
  let sizes := if longest then sizes.reverse else sizes
  match sizes.find? fun n => matchesAll parts (cs.take n) with
  | some n => cs.drop n
  | none => cs

/-- The octets without the shortest or the longest end that a pattern matches. -/
def withoutEnd (parts : List Wildcard) (longest : Bool) (cs : Octets) : Octets :=
  let sizes := List.range (cs.length + 1)
  let sizes := if longest then sizes else sizes.reverse
  match sizes.find? fun n => matchesAll parts (cs.drop n) with
  | some n => cs.take n
  | none => cs

end Wildcard

end Shell

end ToolRelay
