import ToolRelay.Schema.Encode
import ToolRelay.Path.Basic

/-!
# Runs of a tool and their results

Every way of running a tool takes an `Invocation` and gives an `InvocationResult`.  What goes wrong
is a `Failure`, whose kind tells a missing executable from a broken channel or a faulty module.
-/

namespace ToolRelay

/-- Everything that is needed to run a tool once. -/
structure Invocation where
  /-- The argument vector, which begins with the executable or the module. -/
  argv : List String
  /-- Whether the source is sent to the standard input. -/
  useStdin : Bool
  /-- The directory in which the tool runs. -/
  workingDir : Path
  /-- The text of the document. -/
  source : Option String
  deriving DecidableEq, Repr

namespace Invocation

/-- The text for the standard input, if there is to be one. -/
def stdinText (i : Invocation) : Option String :=
  if i.useStdin then some (i.source.getD "") else none

/-- The argument vector on one line. -/
def commandLine (i : Invocation) : String := " ".intercalate i.argv

/-- How an invocation is written. -/
def schema : Schema Invocation :=
  .record "InvocationRequest"
    (.cons "argv" .required (.list .text) <|
      .cons "useStdin" .required .flag <|
      .cons "workingDir" .required .path <|
      .cons "sourceText" (.orElse none) (.optional .text) .nil)
    (fun (argv, useStdin, workingDir, source, ()) => ⟨argv, useStdin, workingDir, source⟩)
    (fun i => (i.argv, i.useStdin, i.workingDir, i.source, ()))

end Invocation

/-- What kind of failure it is. -/
inductive FailureKind where
  /-- The executable cannot be found or started. -/
  | executableNotFound
  /-- The channel to a runner broke, was too slow or carried nonsense. -/
  | transport
  /-- The module raised a fault. -/
  | moduleFault
  /-- A child process had to be stopped, or its pipes failed. -/
  | processFailed
  deriving DecidableEq, Repr

/-- The kind in words. -/
def FailureKind.phrase : FailureKind → String
  | executableNotFound => "executable not found"
  | transport => "RPC transport error"
  | moduleFault => "tool raised an exception"
  | processFailed => "process failed"

/-- What went wrong. -/
structure Failure where
  /-- The kind of failure. -/
  kind : FailureKind
  /-- What happened. -/
  message : String
  /-- What lies behind it, possibly over several lines. -/
  cause : Option String
  deriving DecidableEq, Repr

namespace Failure

/-- The failure on one line. -/
def summary (f : Failure) : String := f.kind.phrase ++ ": " ++ f.message

/-- The failure with its cause. -/
def report (f : Failure) : String :=
  match f.cause with
  | none => f.summary
  | some cause => f.summary ++ "\n" ++ cause

end Failure

/-- What came of running a tool. -/
structure InvocationResult where
  /-- What it wrote to standard output. -/
  stdout : String
  /-- What it wrote to standard error. -/
  stderr : String
  /-- What went wrong. -/
  failure : Option Failure
  /-- The exit code of a child process, `-1` for one that a signal ended. -/
  exitCode : Option Int
  deriving DecidableEq, Repr

namespace InvocationResult

/-- The result of a run that wrote the given texts. -/
def ofOutput (stdout stderr : String) : InvocationResult := ⟨stdout, stderr, none, none⟩

/-- The result of a run that failed. -/
def failed (f : Failure) : InvocationResult := ⟨"", "", some f, none⟩

/-- What there is of a run that never comes to an end: no output, no failure and no exit code.  It
stands where the program waits for ever, and nobody gets to see it. -/
def pending : InvocationResult := ⟨"", "", none, none⟩

/-- Whether nothing went wrong. -/
def isSuccess (r : InvocationResult) : Bool := r.failure.isNone

end InvocationResult

end ToolRelay
