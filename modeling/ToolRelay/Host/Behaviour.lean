import ToolRelay.Text.Utf8

/-!
# What a program does

A program seen from outside: all that it has written and whether it has ended, as a function of
the input that it has had so far.
-/

namespace ToolRelay

/-- What a program has done, given the input that it has had so far. -/
structure Reaction where
  /-- What it has written to standard output. -/
  output : Bytes
  /-- What it has written to standard error. -/
  errors : Bytes
  /-- Its exit code, unless it waits for more input. -/
  exit : Option Nat
  deriving DecidableEq, Repr

/-- A program by what it does: its reaction to the input so far, and whether more can come. -/
abbrev Behaviour := (input : Bytes) → (isClosed : Bool) → Reaction

end ToolRelay
