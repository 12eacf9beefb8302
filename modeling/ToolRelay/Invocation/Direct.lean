import ToolRelay.Host.Basic
import ToolRelay.Invocation.Basic
import ToolRelay.Text.LineBreak

/-!
# Starting a tool by its path

The argument vector is a command line.  Its output is taken until nobody can write any more; the
time limit covers all of that.  A tool that does not read its input is no failure, and neither is
an exit code other than zero.  What was written is lost when the system fails on the way.
-/

namespace ToolRelay

namespace Direct

/-- A text as a tool gets it: every line break is LF. -/
def toolText (s : String) : String :=
  match LineBreak.detect s with
  | .lf => s
  | .crlf | .mixed => LineBreak.convert s .lf

/-- What is done to the standard input of the tool; all of it at once. -/
def feeds (i : Invocation) : List Feed :=
  match i.stdinText with
  | some text => [.bytes 0 (Utf8.encode (toolText text)), .close 0]
  | none => [.close 0]

/-- The command that an argument vector asks for. -/
def command (program : String) (args : List String) (workingDir : Path) : Command :=
  ⟨program, args, some workingDir, []⟩

/-- Whether something happens within a time limit, where 0 stands for no limit. -/
def inTime (timeoutMs : Nat) (moment : Option Moment) : Bool :=
  match moment with
  | some t => timeoutMs == 0 || t < timeoutMs
  | none => false

/-- The text of everything that was written. -/
def written (output : List (Moment × Bytes)) : String := Utf8.lossy (output.flatMap (·.2))

/-- The exit code as a number. -/
def exitNumber : Exit → Int
  | .code n => n
  | .signal => -1

/-- Why the end of a process is not seen: the system refuses to say whether it has ended, before it
has and in time. -/
def waitRefusal? (timeoutMs : Nat) (c : Course) : Option Refusal :=
  match c.waitRefusal with
  | none => none
  | some (moment, refusal) =>
    let isOver := c.ending.any fun ending => ending.1 ≤ moment
    if inTime timeoutMs (some moment) && !isOver then some refusal else none

/-- What came of a process that has not come to an end in time.  Without a limit the program waits
for it for ever. -/
def overdue (program : String) (timeoutMs : Nat) : InvocationResult :=
  if timeoutMs = 0 then .pending
  else .failed ⟨.processFailed, s!"'{program}' timed out after {timeoutMs}ms", none⟩

/-- Why the standard input could not be written.  A process that does not read it to the end is no
failure. -/
def writeRefusal? (c : Course) : Option Refusal :=
  match c.delivery with
  | .refused _ reason => if reason = .brokenPipe then none else some reason
  | .complete _ | .stuck => none

/-- What came of a process that has ended in time with the given exit. -/
def captured (program : String) (timeoutMs : Nat) (c : Course) (exit : Exit) : InvocationResult :=
  match c.readRefusal with
  | some (moment, refusal) =>
    if inTime timeoutMs (some moment) then
      .failed ⟨.processFailed, s!"Failed to capture output of '{program}'",
        some s!"Failed to read output: {refusal.message}"⟩
    else overdue program timeoutMs
  | none =>
    if inTime timeoutMs c.outputEnd && inTime timeoutMs c.errorsEnd then
      match writeRefusal? c with
      | some refusal =>
        .failed ⟨.processFailed, s!"Failed to write to stdin of '{program}'", some refusal.message⟩
      | none => ⟨written c.output, written c.errors, none, some (exitNumber exit)⟩
    else overdue program timeoutMs

/-- What came of a process that had `timeoutMs` milliseconds, or all the time it wants if that is
0. -/
def outcome (program : String) (timeoutMs : Nat) (c : Course) : InvocationResult :=
  match waitRefusal? timeoutMs c with
  | some refusal =>
    .failed ⟨.processFailed, s!"Failed to wait for '{program}'", some refusal.message⟩
  | none =>
    match c.ending with
    | none => overdue program timeoutMs
    | some (moment, exit) =>
      if inTime timeoutMs (some moment) then captured program timeoutMs c exit
      else overdue program timeoutMs

/-- Runs the command line. -/
def conduct (host : Host) (timeoutMs : Nat) (i : Invocation) : Traced InvocationResult :=
  match i.argv with
  | [] => pure (.failed ⟨.executableNotFound, "Empty command", none⟩)
  | program :: args => do
    match ← host.launch (command program args i.workingDir) with
    | .error refusal =>
      return .failed ⟨.executableNotFound, s!"Failed to launch '{program}'",
        some s!"{refusal.message} (cwd: {i.workingDir.display})"⟩
    | .ok process => return outcome program timeoutMs (process.course (feeds i))

/-- What comes of running the command line. -/
def invoke (host : Host) (timeoutMs : Nat) (i : Invocation) : InvocationResult :=
  (conduct host timeoutMs i).value

variable {host : Host} {timeoutMs : Nat} {i : Invocation} {program : String} {args : List String}

theorem invoke_of_nil (h : i.argv = []) :
    invoke host timeoutMs i = .failed ⟨.executableNotFound, "Empty command", none⟩ := by
  rw [invoke, conduct, h]
  rfl

theorem invoke_of_refusal {refusal : Refusal} (h : i.argv = program :: args)
    (hs : host.start (command program args i.workingDir) = .error refusal) :
    invoke host timeoutMs i = .failed ⟨.executableNotFound, s!"Failed to launch '{program}'",
      some s!"{refusal.message} (cwd: {i.workingDir.display})"⟩ := by
  simp only [invoke, conduct, h, Host.launch, Traced.value_bind, Traced.value_act, hs]
  rfl

theorem invoke_of_start {process : Process} (h : i.argv = program :: args)
    (hs : host.start (command program args i.workingDir) = .ok process) :
    invoke host timeoutMs i = outcome program timeoutMs (process.course (feeds i)) := by
  simp only [invoke, conduct, h, Host.launch, Traced.value_bind, Traced.value_act, hs]
  rfl

end Direct

end ToolRelay
