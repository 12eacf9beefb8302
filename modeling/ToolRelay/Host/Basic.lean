import ToolRelay.Path.Normal
import ToolRelay.Trace

/-!
# The host system

What the library asks of the system it runs on: the current directory, files and child processes.
A `Host` answers these questions; every function that needs one takes it as an argument, so laws
about them hold on every host.

A child process is seen through its pipes only.  `Process` gives, for everything that was written
to its standard input and the moment each piece was written, what becomes of the last piece, what
has come out of the other pipes and when, and how the process ends.
-/

namespace ToolRelay

/-- Why the system refused something. -/
inductive Refusal where
  /-- There is no such file or directory. -/
  | notFound
  /-- The caller may not do that. -/
  | notPermitted
  /-- A part of the path is no directory. -/
  | notADirectory
  /-- The path names a directory. -/
  | isADirectory
  /-- The file cannot be executed. -/
  | notExecutable
  /-- A name is too long. -/
  | nameTooLong
  /-- The argument list is too long. -/
  | tooManyArguments
  /-- Nobody reads the pipe. -/
  | brokenPipe
  /-- A file name holds a NUL. -/
  | nulInFileName
  /-- A command line holds a NUL. -/
  | nulInCommand
  /-- The bytes read are not UTF-8. -/
  | notUtf8
  deriving DecidableEq, Repr

/-- The refusal in words. -/
def Refusal.message : Refusal → String
  | .notFound => "No such file or directory (os error 2)"
  | .notPermitted => "Permission denied (os error 13)"
  | .notADirectory => "Not a directory (os error 20)"
  | .isADirectory => "Is a directory (os error 21)"
  | .notExecutable => "Exec format error (os error 8)"
  | .nameTooLong => "File name too long (os error 36)"
  | .tooManyArguments => "Argument list too long (os error 7)"
  | .brokenPipe => "Broken pipe (os error 32)"
  | .nulInFileName => "file name contained an unexpected NUL byte"
  | .nulInCommand => "nul byte found in provided data"
  | .notUtf8 => "stream did not contain valid UTF-8"

/-- What a path leads to. -/
inductive EntryKind where
  /-- A directory. -/
  | directory
  /-- A file with content. -/
  | file
  /-- Something else, such as a device. -/
  | other
  deriving DecidableEq, Repr

/-- A moment, in milliseconds since the process was started. -/
abbrev Moment := Nat

/-- Something done to the standard input of a process. -/
inductive Feed where
  /-- Bytes written at a moment. -/
  | bytes (moment : Moment) (content : Bytes)
  /-- The pipe closed at a moment. -/
  | close (moment : Moment)
  deriving DecidableEq, Repr

/-- How a process ended. -/
inductive Exit where
  /-- With an exit code. -/
  | code (n : Nat)
  /-- By a signal. -/
  | signal
  deriving DecidableEq, Repr

/-- What comes of writing to the standard input of a process. -/
inductive Delivery where
  /-- All of it is in the pipe at a moment. -/
  | complete (moment : Moment)
  /-- At a moment the system refuses to take more of it. -/
  | refused (moment : Moment) (reason : Refusal)
  /-- The pipe is full, and nobody ever makes room in it. -/
  | stuck
  deriving DecidableEq, Repr

/-- What becomes of a process if nothing more is done to its standard input. -/
structure Course where
  /-- Bytes written to standard output, with the moment of each write. -/
  output : List (Moment × Bytes)
  /-- Bytes written to standard error, with the moment of each write. -/
  errors : List (Moment × Bytes)
  /-- When nobody holds the writing end of standard output any more; `none` if that never comes. -/
  outputEnd : Option Moment
  /-- When nobody holds the writing end of standard error any more. -/
  errorsEnd : Option Moment
  /-- When and how the process ends; `none` if it waits for input for ever. -/
  ending : Option (Moment × Exit)
  /-- When and why the system refuses to say whether the process has ended; as a rule it does
  not. -/
  waitRefusal : Option (Moment × Refusal)
  /-- When and why what the process writes cannot be read any more; as a rule it can. -/
  readRefusal : Option (Moment × Refusal)
  /-- What comes of the last write to standard input. -/
  delivery : Delivery
  deriving Repr

/-- When and how a process ends that is killed at a moment: then, unless it has ended before. -/
def Course.endingIfKilled (c : Course) (moment : Moment) : Moment × Exit :=
  match c.ending with
  | some (own, exit) => if own ≤ moment then (own, exit) else (moment, .signal)
  | none => (moment, .signal)

/-- A started process: its course for every history of its standard input. -/
structure Process where
  /-- The course after the given history. -/
  course : List Feed → Course

/-- What the library asks of the system. -/
structure Host where
  /-- The current directory. -/
  currentDir : Except Refusal Path
  /-- The bytes of a file. -/
  readFile : Path → Except Refusal Bytes
  /-- What a path leads to, if it leads anywhere. -/
  kind? : Path → Option EntryKind
  /-- Starts a command line. -/
  start : Command → Except Refusal Process

namespace Host

/-- Whether a path leads to a directory. -/
def isDir (h : Host) (p : Path) : Bool := h.kind? p == some .directory

/-- Whether a path leads to a file. -/
def isFile (h : Host) (p : Path) : Bool := h.kind? p == some .file

/-- Whether a path leads anywhere. -/
def hasEntry (h : Host) (p : Path) : Bool := (h.kind? p).isSome

/-- Starts a command line, and leaves a trace of that. -/
def launch (h : Host) (c : Command) : Traced (Except Refusal Process) :=
  Traced.act (.start c) (h.start c)

/-- The text of a file. -/
def readText (h : Host) (p : Path) : Except Refusal String := do
  match Utf8.decode? (← h.readFile p) with
  | some text => .ok text
  | none => .error .notUtf8

/-- The current directory, or `.` with a warning when it cannot be read. -/
def workingDir (h : Host) : Traced Path :=
  match h.currentDir with
  | .ok dir => pure dir
  | .error e => do
    Traced.warn s!"Unable to read current directory: {e.message}"
    pure (Path.ofString ".")

/-- `p` in normal form, seen from the current directory if it is relative. -/
def absolutize (h : Host) (p : Path) : Traced Path :=
  if p.isAbsolute then pure p.normalize
  else do
    let dir ← h.workingDir
    pure (dir.join p).normalize

end Host

end ToolRelay
