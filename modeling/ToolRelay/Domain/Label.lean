import ToolRelay.Domain.Bootstring
import ToolRelay.Domain.Mapping
import ToolRelay.Unicode.Direction
import ToolRelay.Unicode.Joining
import ToolRelay.Unicode.Normal

/-!
# Labels

A label is what stands between two dots of a name.  It has a form for reading and one in ASCII.
`Label.ofText?` finds both and refuses a label that

* begins with a mark, or is too long to be written in ASCII,
* has a joiner that joins nothing (RFC 5892), or
* claims to be a code and is none, or the code of a label that has another form.

`Label.keepsDirection` is the rule for names that are written from right to left (RFC 5893).
-/

namespace ToolRelay

namespace Domain

open Unicode

/-- A label. -/
structure Label where
  /-- The characters to be read. -/
  readable : List Char
  /-- The form in ASCII. -/
  ascii : List Char
  deriving DecidableEq, Repr

/-- Whether all characters are in ASCII. -/
def isPlain (cs : List Char) : Bool := cs.all (·.toNat < 0x80)

/-! ### Joiners -/

/-- The class of a mark that joins the letters around it. -/
def joiningClass : Nat := 9

/-- Whether the first of the letters in reach satisfies `joins`; others join through marks only. -/
def reaches (joins : Char → Bool) : List Char → Bool
  | [] => false
  | c :: rest => joins c || (joinsThrough.contains c && reaches joins rest)

/-- Whether a joiner joins something, between what stands before it, last first, and after it.  One
of the two joiners also stands between letters that would be written together. -/
def joinsSomething (before : List Char) (joiner : Char) (after : List Char) : Bool :=
  match before with
  | [] => false
  | c :: _ =>
    combiningClass c == joiningClass ||
      (joiner == '\u200C' &&
        reaches (fun d => joinsLeft.contains d || joinsBoth.contains d) before &&
        reaches (fun d => joinsRight.contains d || joinsBoth.contains d) after)

/-- Whether all joiners join something, after what stands before, last first. -/
def joinersFit (before : List Char) : List Char → Bool
  | [] => true
  | c :: rest =>
    ((c != '\u200C' && c != '\u200D') || joinsSomething before c rest) &&
      joinersFit (c :: before) rest

/-! ### Reading -/

/-- How many characters a label with characters beyond ASCII can have. -/
def maxReadable : Nat := 1000

/-- How many characters a code can have. -/
def maxCode : Nat := 2000

/-- Whether a label can be read. -/
def isReadable (cs : List Char) : Bool :=
  !(cs.head?.map marks.contains).getD false && joinersFit [] cs &&
    (isPlain cs || cs.length ≤ maxReadable)

/-- The label that a code spells.  It has characters beyond ASCII, all of which a name can have, and
is in the composed form. -/
def Label.ofCode? (code : List Char) : Option Label :=
  if maxCode < code.length then none
  else
    match ofBootstring? code with
    | none => none
    | some cs =>
      if !isPlain cs && cs.all isKept && compose cs == cs && isReadable cs then
        some ⟨cs, "xn--".toList ++ code⟩
      else none

/-- The label that a text spells, whose characters have been replaced and composed. -/
def Label.ofText? (cs : List Char) : Option Label :=
  match cs with
  | 'x' :: 'n' :: '-' :: '-' :: code => if isPlain code then Label.ofCode? code else none
  | cs =>
    if isReadable cs then
      some ⟨cs, if isPlain cs then cs else "xn--".toList ++ bootstring cs⟩
    else none

/-! ### Direction -/

/-- Whether a direction is one from right to left. -/
def isLeftward (d : Direction) : Bool :=
  d == .rightToLeft || d == .arabicLetter || d == .arabicNumber

/-- Whether a label has characters that are written from right to left. -/
def Label.isLeftward (l : Label) : Bool := l.readable.any fun c => Domain.isLeftward (.of c)

/-- Directions that every label can have anywhere but at its ends. -/
def isIndifferent (d : Direction) : Bool :=
  d == .europeanNumber || d == .europeanSeparator || d == .commonSeparator ||
    d == .europeanTerminator || d == .otherNeutral || d == .boundaryNeutral || d == .nonspacingMark

/-- Whether directions are those of a label from left to right: it ends with a letter or a digit,
and marks after that. -/
def runsRight (ds : List Direction) : Bool :=
  ds.all (fun d => d == .leftToRight || isIndifferent d) &&
    match ds.reverse.dropWhile (· == .nonspacingMark) with
    | [] => false
    | d :: _ => d == .leftToRight || d == .europeanNumber

/-- Whether directions are those of a label from right to left: it ends with a letter or a digit,
and marks after that, and does not mix two kinds of digits. -/
def runsLeft (ds : List Direction) : Bool :=
  ds.all (fun d => isLeftward d || isIndifferent d) &&
    !(ds.contains .europeanNumber && ds.contains .arabicNumber) &&
    match ds.reverse.dropWhile (· == .nonspacingMark) with
    | [] => false
    | d :: _ => isLeftward d || d == .europeanNumber

/-- Whether a label keeps to one direction, as every label must where one of them runs from right to
left.  The first character decides for which. -/
def Label.keepsDirection (l : Label) : Bool :=
  let ds := l.readable.map Direction.of
  match ds with
  | [] => true
  | .leftToRight :: _ => runsRight ds
  | .rightToLeft :: _ => runsLeft ds
  | .arabicLetter :: _ => runsLeft ds
  | _ => false

end Domain

end ToolRelay
