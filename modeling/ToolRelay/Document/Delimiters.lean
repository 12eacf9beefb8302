/-!
# Balanced delimiters

Brackets must match outside of quoted texts.  A quoted text begins and ends with `"`; a backslash
inside it takes the next character along.

* `Delimiters.step` reads one character; `Delimiters.check` reads a text and gives the first
  problem.
* Lines are counted from 1, also inside quoted texts.
-/

namespace ToolRelay

namespace Delimiters

/-- A kind of brackets. -/
inductive Bracket where
  /-- Parentheses. -/
  | round
  /-- Square brackets. -/
  | square
  /-- Braces. -/
  | curly
  deriving DecidableEq, Repr

/-- The opening bracket. -/
def Bracket.opening : Bracket → Char
  | round => '('
  | square => '['
  | curly => '\x7b'

/-- The closing bracket. -/
def Bracket.closing : Bracket → Char
  | round => ')'
  | square => ']'
  | curly => '\x7d'

/-- The kind of brackets that a character opens. -/
def Bracket.opened? (c : Char) : Option Bracket :=
  if c = '(' then some round
  else if c = '[' then some square
  else if c = '\x7b' then some curly
  else none

/-- The kind of brackets that a character closes. -/
def Bracket.closed? (c : Char) : Option Bracket :=
  if c = ')' then some round
  else if c = ']' then some square
  else if c = '\x7d' then some curly
  else none

/-- What is wrong with a text. -/
inductive Problem where
  /-- A bracket is closed by one of another kind. -/
  | mismatch (line : Nat) (closed opened : Bracket) (openedOn : Nat)
  /-- A bracket is closed that has not been opened. -/
  | unexpected (line : Nat) (closed : Bracket)
  /-- A quoted text does not end. -/
  | unterminated (startedOn : Nat)
  /-- A bracket is not closed. -/
  | unclosed (opened : Bracket) (openedOn : Nat)
  deriving DecidableEq, Repr

/-- The problem in words. -/
def Problem.message : Problem → String
  | .mismatch line closed opened openedOn =>
    "line " ++ toString line ++ ": '" ++ String.singleton closed.closing ++ "' does not close '" ++
      String.singleton opened.opening ++ "' opened on line " ++ toString openedOn
  | .unexpected line closed =>
    "line " ++ toString line ++ ": unexpected '" ++ String.singleton closed.closing ++ "'"
  | .unterminated startedOn => "unterminated string starting on line " ++ toString startedOn
  | .unclosed opened openedOn =>
    "unclosed '" ++ String.singleton opened.opening ++ "' opened on line " ++ toString openedOn

/-- Where the reader stands. -/
inductive Mode where
  /-- Outside of quoted texts. -/
  | plain
  /-- In a quoted text. -/
  | quoted (startedOn : Nat)
  /-- In a quoted text after a backslash. -/
  | escaped (startedOn : Nat)
  deriving DecidableEq, Repr

/-- What the reader knows between two characters. -/
structure State where
  /-- The line of the last character. -/
  line : Nat
  /-- Inside or outside of a quoted text. -/
  mode : Mode
  /-- The open brackets with their lines, innermost first. -/
  open_ : List (Bracket × Nat)
  deriving DecidableEq, Repr

/-- The state before the first character. -/
def State.start : State := ⟨1, .plain, []⟩

/-- Reads one character. -/
def step (s : State) (c : Char) : Except Problem State :=
  let line := if c = '\n' then s.line + 1 else s.line
  match s.mode with
  | .escaped n => .ok ⟨line, .quoted n, s.open_⟩
  | .quoted n =>
    if c = '\\' then .ok ⟨line, .escaped n, s.open_⟩
    else if c = '"' then .ok ⟨line, .plain, s.open_⟩
    else .ok ⟨line, .quoted n, s.open_⟩
  | .plain =>
    if c = '"' then .ok ⟨line, .quoted line, s.open_⟩
    else
      match Bracket.opened? c, Bracket.closed? c with
      | some b, _ => .ok ⟨line, .plain, (b, line) :: s.open_⟩
      | none, some b =>
        match s.open_ with
        | [] => .error (.unexpected line b)
        | (o, openedOn) :: rest =>
          if o = b then .ok ⟨line, .plain, rest⟩ else .error (.mismatch line b o openedOn)
      | none, none => .ok ⟨line, .plain, s.open_⟩

/-- Reads characters. -/
def run (s : State) : List Char → Except Problem State
  | [] => .ok s
  | c :: rest =>
    match step s c with
    | .ok s => run s rest
    | .error e => .error e

/-- What is wrong when the text ends here. -/
def finish (s : State) : Except Problem Unit :=
  match s.mode, s.open_ with
  | .plain, [] => .ok ()
  | .plain, (b, openedOn) :: _ => .error (.unclosed b openedOn)
  | .quoted n, _ => .error (.unterminated n)
  | .escaped n, _ => .error (.unterminated n)

/-- The first problem of a text, if it has one. -/
def check (s : String) : Except Problem Unit :=
  match run .start s.toList with
  | .ok s => finish s
  | .error e => .error e

end Delimiters

end ToolRelay
