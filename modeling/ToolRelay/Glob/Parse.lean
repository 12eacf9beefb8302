import ToolRelay.Text.Utf8

/-!
# Glob patterns

A pattern is a sequence of tokens.  `?` stands for one octet and `*` for any number of them,
separators included; `[…]` stands for one of several, and between braces a comma separates
alternatives, which may contain braces again.  `**` as a whole component stands for any number of
components; where it stands decides which of the recursive tokens it is.  A backslash makes the
next character stand for itself.

`Glob.parse` reads a pattern character by character.
-/

namespace ToolRelay

namespace Glob

/-- A part of a pattern. -/
inductive Token where
  /-- A character that stands for itself. -/
  | literal (c : Char)
  /-- Any octet. -/
  | any
  /-- Any octets. -/
  | star
  /-- Any components, and the separator after them, at the beginning. -/
  | recursivePrefix_
  /-- A separator and anything after it, at the end. -/
  | recursiveSuffix
  /-- A separator, or any components between two separators. -/
  | recursiveMiddle
  /-- One of several characters, or none of them. -/
  | class_ (negated : Bool) (ranges : List (Char × Char))
  /-- One of several patterns. -/
  | alternates (branches : List (List Token))
  deriving Repr, Inhabited

/-- Why a text is no pattern. -/
inductive Flaw where
  /-- A class does not end. -/
  | unclosedClass
  /-- A range ends before it begins. -/
  | badRange (first last : Char)
  /-- A group ends that has not begun. -/
  | unopenedGroup
  /-- A group does not end. -/
  | unclosedGroup
  /-- Nothing comes after a backslash. -/
  | danglingEscape
  deriving DecidableEq, Repr

/-- The flaw in words. -/
def Flaw.message : Flaw → String
  | .unclosedClass => "unclosed character class; missing ']'"
  | .badRange first last =>
    "invalid range; '" ++ String.singleton first ++ "' > '" ++ String.singleton last ++ "'"
  | .unopenedGroup =>
    "unopened alternate group; missing '\x7b' (maybe escape '\x7d' with '[\x7d]'?)"
  | .unclosedGroup =>
    "unclosed alternate group; missing '\x7d' (maybe escape '\x7b' with '[\x7b]'?)"
  | .danglingEscape => "dangling '\\'"

/-! ### Classes -/

/-- A class while it is read. -/
structure ClassReader where
  /-- Whether nothing has been read. -/
  fresh : Bool
  /-- Whether the class stands for all other characters. -/
  negated : Bool
  /-- The ranges so far, last first. -/
  ranges : List (Char × Char)
  /-- Whether the last range waits for its end. -/
  open_ : Bool
  deriving Repr

/-- A class of which nothing has been read. -/
def ClassReader.start : ClassReader := ⟨true, false, [], false⟩

/-- Puts a character into the class: it ends the last range if that waits for its end. -/
def ClassReader.add (r : ClassReader) (c : Char) : Except Flaw ClassReader :=
  match r.open_, r.ranges with
  | true, (first, _) :: rest =>
    if c < first then .error (.badRange first c)
    else .ok { r with fresh := false, ranges := (first, c) :: rest, open_ := false }
  | _, ranges => .ok { r with fresh := false, ranges := (c, c) :: ranges, open_ := false }

/-- The token that a class gives at its end; a `-` at the end stands for itself. -/
def ClassReader.token (r : ClassReader) : Token :=
  .class_ r.negated ((if r.open_ then ('-', '-') :: r.ranges else r.ranges).reverse)

/-- Reads one character of a class; `none` at its end.  A bracket or `-` as the first character
stands for itself. -/
def ClassReader.step (r : ClassReader) (c : Char) : Except Flaw (Option ClassReader) :=
  if r.fresh = true ∧ (c = '!' ∨ c = '^') then .ok (some { r with fresh := false, negated := true })
  else if r.ranges = [] then (r.add c).map some
  else if c = ']' then .ok none
  else if c = '-' ∧ r.open_ = false then .ok (some { r with open_ := true })
  else (r.add c).map some

/-! ### Patterns -/

/-- A group while it is read. -/
structure Group where
  /-- The alternatives that have ended, last first. -/
  finished : List (List Token)
  /-- The tokens before the group, last first. -/
  before : List Token
  deriving Repr

/-- A pattern while it is read. -/
structure Reader where
  /-- The groups that have begun, innermost first. -/
  groups : List Group
  /-- The tokens of the current alternative, last first. -/
  branch : List Token
  /-- The last character. -/
  last : Option Char
  /-- The class that has begun. -/
  class_ : Option ClassReader
  deriving Repr

/-- Nothing read yet. -/
def Reader.start : Reader := ⟨[], [], none, none⟩

/-- Appends a token. -/
def Reader.push (r : Reader) (t : Token) : Reader := { r with branch := t :: r.branch }

/-- What `**` becomes. -/
inductive DoubleStar where
  /-- Two single stars. -/
  | plain
  /-- The recursive token at the beginning; it takes a separator along. -/
  | leading
  /-- The recursive token at the end. -/
  | trailing
  /-- The recursive token between two separators; it takes the second one along. -/
  | between
  deriving DecidableEq, Repr

/-- What `**` becomes before the character `ahead`.  It is recursive only as a whole
component. -/
def Reader.doubleStar (r : Reader) (ahead : Option Char) : DoubleStar :=
  let inGroup := !r.groups.isEmpty
  if r.branch.isEmpty then
    if ahead = none ∨ ahead = some '/' then .leading else .plain
  else if r.last = some '/' ∨ (inGroup = true ∧ (r.last = some ',' ∨ r.last = some '\x7b')) then
    match ahead with
    | none => .trailing
    | some c =>
      if (c = ',' ∨ c = '\x7d') ∧ inGroup = true then .trailing
      else if c = '/' then .between
      else .plain
  else .plain

/-- Puts a recursive token in the place of the last one, which was the separator before it; another
recursive token stays. -/
def Reader.mend (r : Reader) (t : Token) : Reader :=
  match r.branch with
  | .recursivePrefix_ :: _ => r
  | .recursiveSuffix :: _ => r
  | _ :: rest => { r with branch := t :: rest }
  | [] => r.push t

/-- The reader after `**`. -/
def Reader.afterDoubleStar (r : Reader) : DoubleStar → Reader
  | .plain => (r.push .star).push .star
  | .leading => r.push .recursivePrefix_
  | .trailing => r.mend .recursiveSuffix
  | .between => r.mend .recursiveMiddle

/-- Reads a character other than a star and a backslash, outside of a class. -/
def Reader.step (r : Reader) (c : Char) : Except Flaw Reader :=
  let r := { r with last := some c }
  if c = '?' then .ok (r.push .any)
  else if c = '[' then .ok { r with class_ := some .start }
  else if c = '\x7b' then .ok { r with groups := ⟨[], r.branch⟩ :: r.groups, branch := [] }
  else if c = '\x7d' then
    match r.groups with
    | [] => .error .unopenedGroup
    | g :: groups =>
      let branches := (r.branch.reverse :: g.finished).reverse
      .ok { r with groups, branch := .alternates branches :: g.before }
  else if c = ',' then
    match r.groups with
    | [] => .ok (r.push (.literal ','))
    | g :: groups =>
      .ok { r with groups := { g with finished := r.branch.reverse :: g.finished } :: groups
                   branch := [] }
  else .ok (r.push (.literal c))

/-- Reads the rest of a pattern. -/
def Reader.read (r : Reader) : List Char → Except Flaw Reader
  | [] => if r.class_.isSome then .error .unclosedClass else .ok r
  | c :: rest =>
    match r.class_ with
    | some k =>
      match k.step c with
      | .error e => .error e
      | .ok (some k) => read { r with class_ := some k, last := some c } rest
      | .ok none => read ({ r with class_ := none, last := some c }.push k.token) rest
    | none =>
      if c = '*' then
        match rest with
        | '*' :: rest =>
          let kind := r.doubleStar rest.head?
          let r := r.afterDoubleStar kind
          match rest with
          | x :: more =>
            if kind = .leading ∨ kind = .between then read { r with last := some x } more
            else read { r with last := some '*' } (x :: more)
          | [] => read { r with last := some '*' } []
        | rest => read ({ r with last := some '*' }.push .star) rest
      else if c = '\\' then
        match rest with
        | [] => .error .danglingEscape
        | x :: rest => read ({ r with last := some x }.push (.literal x)) rest
      else
        match r.step c with
        | .error e => .error e
        | .ok r => read r rest

/-- The tokens of a pattern. -/
def parse (pattern : String) : Except Flaw (List Token) := do
  let r ← Reader.start.read pattern.toList
  if r.groups.isEmpty then return r.branch.reverse else throw Flaw.unclosedGroup

end Glob

end ToolRelay
