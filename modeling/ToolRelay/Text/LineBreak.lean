/-!
# Line breaks

Text uses LF or CR LF as its line break, or a mixture.  `LineBreak.detect` tells which, and
`LineBreak.convert` gives every break the same form.  A CR that no LF follows is an ordinary
character.
-/

namespace ToolRelay

/-- The line-break convention of a text. -/
inductive LineBreak where
  /-- Every break is LF; also a text without a break. -/
  | lf
  /-- Every break is CR LF. -/
  | crlf
  /-- Both kinds occur. -/
  | mixed
  deriving DecidableEq, Repr

namespace LineBreak

/-- How many times CR LF occurs. -/
def countCrLf (s : List Char) : Nat :=
  (s.foldl (fun (n, afterCr) c => (if afterCr && c == '\n' then n + 1 else n, c == '\r'))
    (0, false)).1

/-- How many LF occur without a CR before them. -/
def countBareLf (s : List Char) : Nat := s.count '\n' - countCrLf s

/-- The convention that `s` follows. -/
def detect (s : String) : LineBreak :=
  let crlf := countCrLf s.toList
  let lf := countBareLf s.toList
  if crlf > 0 then (if lf > 0 then .mixed else .crlf) else .lf

/-- Removes each CR that an LF follows.  What follows a character is read off the text as it
was, so of several CR before one LF only the last goes. -/
def toLf (s : List Char) : List Char :=
  (s.foldr (fun c (kept, beforeLf) =>
    (if c = '\r' ∧ beforeLf = true then kept else c :: kept, decide (c = '\n'))) ([], false)).1

/-- Puts a CR before each LF. -/
def toCrLf (s : List Char) : List Char :=
  (toLf s).flatMap fun c => if c = '\n' then ['\r', '\n'] else [c]

/-- The text with every line break in the form `target` asks for; `mixed` asks for LF. -/
def convert (s : String) : LineBreak → String
  | .crlf => String.ofList (toCrLf s.toList)
  | .lf | .mixed => String.ofList (toLf s.toList)

end LineBreak

end ToolRelay
