import ToolRelay.Invocation.Basic
import ToolRelay.Output.Channel
import ToolRelay.Trace

/-!
# How a command ends

A command that runs the tool once ends with an exit code and what it has written.  The exit code
tells a run that failed from a problem of the program itself.

* `Cli.Ending.ofOutcome` is the ending for what came of the run.
-/

namespace ToolRelay

namespace Cli

/-- The exit codes. -/
inductive ExitStatus where
  /-- The tool ran and reported no failure. -/
  | success
  /-- The tool could not be run, or it reported a failure. -/
  | invocationFailed
  /-- The configuration or a file is unusable, or a module in this program raised a fault. -/
  | toolError
  deriving DecidableEq, Repr

/-- The number of an exit status. -/
def ExitStatus.code : ExitStatus → Nat
  | .success => 0
  | .invocationFailed => 1
  | .toolError => 2

/-- How a command ends. -/
structure Ending where
  /-- The exit status. -/
  status : ExitStatus
  /-- What has been written to standard output. -/
  stdout : String
  /-- What has been written to standard error. -/
  stderr : String
  deriving DecidableEq, Repr

/-! ### Labels -/

/-- Colours of labels. -/
inductive Colour where
  /-- For errors. -/
  | red
  /-- For warnings. -/
  | yellow
  /-- For other messages. -/
  | cyan
  deriving DecidableEq, Repr

/-- The number of a colour on a terminal. -/
def Colour.number : Colour → Nat
  | .red => 31
  | .yellow => 33
  | .cyan => 36

/-- Whether labels are coloured: always if `CLICOLOR_FORCE` asks for it, never if there is
`NO_COLOR`, and otherwise on a terminal, unless `CLICOLOR` is `0`. -/
def isColoured (look : String → Option String) (isTerminal : Bool) : Bool :=
  if (look "CLICOLOR_FORCE").any (· != "0") then true
  else if (look "NO_COLOR").isSome then false
  else isTerminal && (look "CLICOLOR").all (· != "0")

/-- A line that begins with a label. -/
def labelled (coloured : Bool) (colour : Colour) (label text : String) : String :=
  let shown := if coloured then s!"\x1b[1;{colour.number}m{label}\x1b[0m" else label
  shown ++ ": " ++ text ++ "\n"

/-- The line about something that has gone wrong. -/
def errorLine (coloured : Bool) (text : String) : String := labelled coloured .red "Error" text

/-- The line for a notification. -/
def notificationLine (coloured : Bool) (m : Message) : String :=
  match m.level with
  | .error => labelled coloured .red "error" m.text
  | .warning => labelled coloured .yellow "warning" m.text
  | .info | .log => labelled coloured .cyan "info" m.text

/-- The lines for the notifications of a computation. -/
def notifications {α : Type} (coloured : Bool) (t : Traced α) : String :=
  String.join ((t.messages.filter (·.shown)).map (notificationLine coloured))

/-! ### Endings -/

namespace Ending

/-- The ending for a problem of the program itself. -/
def trouble (coloured : Bool) (text : String) : Ending :=
  ⟨.toolError, "", errorLine coloured text⟩

/-- The exit status for a result. -/
def statusOf (r : InvocationResult) : ExitStatus :=
  if r.failure.isSome || r.exitCode.any (· != 0) then .invocationFailed else .success

/-- The ending for a result. -/
def ofResult (coloured : Bool) (r : InvocationResult) : Ending where
  status := statusOf r
  stdout := r.stdout
  stderr := r.stderr ++ ((r.failure.map fun f => errorLine coloured f.summary).getD "")

/-- The ending for what came of a run: a fault, a result, or no run at all, of which `skipped`
tells. -/
def ofOutcome (coloured : Bool) (skipped : String) :
    Except Failure (Option InvocationResult) → Ending
  | .error f =>
    ⟨.toolError, "", errorLine coloured f.summary ++ ((f.cause.map (· ++ "\n")).getD "")⟩
  | .ok none => ⟨.success, "", skipped⟩
  | .ok (some r) => ofResult coloured r

/-- The ending with something written to standard error before it. -/
def after (e : Ending) (stderr : String) : Ending := { e with stderr := stderr ++ e.stderr }

end Ending

end Cli

end ToolRelay
