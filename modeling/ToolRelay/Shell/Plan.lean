import ToolRelay.Text.Utf8

/-!
# Shell commands

What a shell script says, as a tree: words with their expansions, redirections and commands.  The
shell works on octets; each is written as the character with its number, so that scripts and data
can be taken apart like text.
-/

namespace ToolRelay

namespace Shell

/-- Octets, each as the character with its number. -/
abbrev Octets := List Char

/-- Bytes as octets. -/
def ofBytes (bs : Bytes) : Octets := bs.map fun b => Char.ofNat b.toNat

/-- Octets as bytes. -/
def toBytes (cs : Octets) : Bytes := cs.map fun c => UInt8.ofNat c.toNat

/-- The octets of a text. -/
def ofString (s : String) : Octets := ofBytes (Utf8.encode s)

/-- The text of octets, flaws replaced. -/
def toText (cs : Octets) : String := Utf8.lossy (toBytes cs)

/-- What becomes of the value of a parameter; `orEmpty` tells whether an empty value counts as
none. -/
inductive Change where
  /-- The value itself. -/
  | same
  /-- How many octets it has. -/
  | length
  /-- A word where there is none. -/
  | orElse (orEmpty : Bool)
  /-- A word where there is none, which becomes the value. -/
  | orAssign (orEmpty : Bool)
  /-- A word where there is one. -/
  | instead (orEmpty : Bool)
  /-- A failure where there is none. -/
  | orFail (orEmpty : Bool)
  /-- The value without what a pattern matches at its beginning. -/
  | withoutStart (longest : Bool)
  /-- The value without what a pattern matches at its end. -/
  | withoutEnd (longest : Bool)
  deriving DecidableEq, Repr

mutual

/-- A piece of a word. -/
inductive Piece where
  /-- Octets that stand for themselves. -/
  | literal (cs : Octets) (quoted : Bool)
  /-- The value of a parameter, changed by means of a word. -/
  | parameter (name : Octets) (change : Change) (word : List Piece) (quoted : Bool)
  /-- What a command writes. -/
  | output (plan : Plan) (quoted : Bool)
  /-- The value of an arithmetic expression. -/
  | number (expression : List Piece) (quoted : Bool)

/-- A change of what a descriptor refers to. -/
inductive Redirection where
  /-- To what another descriptor refers to. -/
  | duplicate (descriptor source : Nat)
  /-- To nothing. -/
  | close (descriptor : Nat)
  /-- To the content of a file. -/
  | readFrom (descriptor : Nat) (word : List Piece)
  /-- To a text. -/
  | readText (descriptor : Nat) (word : List Piece)
  /-- To a file that is written, from its beginning or after what it holds. -/
  | writeTo (descriptor : Nat) (appends : Bool) (word : List Piece)

/-- A command. -/
inductive Plan where
  /-- Nothing. -/
  | nothing
  /-- Assignments, and a command by the words it consists of; `line` is where it stands. -/
  | simple (line : Nat) (assignments : List (Octets × List Piece)) (words : List (List Piece))
      (redirections : List Redirection)
  /-- A command with redirections for all of it. -/
  | redirected (body : Plan) (redirections : List Redirection)
  /-- A pipe from the first command to the second. -/
  | pipe (first second : Plan)
  /-- The opposite status. -/
  | negate (body : Plan)
  /-- The second after the success of the first. -/
  | andThen (first second : Plan)
  /-- The second after the failure of the first. -/
  | orElse (first second : Plan)
  /-- One after the other. -/
  | sequence (first second : Plan)
  /-- A command that is not waited for. -/
  | background (body : Plan)
  /-- A command in a shell of its own. -/
  | subshell (body : Plan)
  /-- One of two commands. -/
  | choose (test body otherwise : Plan)
  /-- The first command one of whose patterns matches a word. -/
  | select (word : List Piece) (cases : List (List (List Piece) × Plan))
  /-- A command while the test succeeds, or with `until_` while it fails. -/
  | loop (until_ : Bool) (test body : Plan)
  /-- A command for each word. -/
  | each (name : Octets) (words : List (List Piece)) (body : Plan)
  /-- A command that has a name of its own from now on. -/
  | define (name : Octets) (body : Plan)

end

/-- A word of a command. -/
abbrev Word := List Piece

end Shell

end ToolRelay
