import ToolRelay.Host.Tree
import ToolRelay.Shell.Plan

/-!
# The machine that runs commands

A `Machine` is a process that is running: its clock, what is still to come on its standard input,
what it has written, and the state of the shell in it.  Commands take no time of their own; the
clock moves when a command sleeps or waits for input.

`Run α` is a computation on the machine.  It stops early when the process exits, is killed, or
waits for input that never comes.
-/

namespace ToolRelay

namespace Shell

/-- What a descriptor refers to. -/
inductive Handle where
  /-- The standard input of the process. -/
  | input
  /-- The standard output of the process. -/
  | output
  /-- The standard error of the process. -/
  | errors
  /-- A device that swallows everything. -/
  | sink
  /-- A pipe inside the process, by its number. -/
  | pipe (n : Nat)
  /-- A file that is written, by its name. -/
  | file (name : List Bytes)
  deriving DecidableEq, Repr

/-- The state of a shell. -/
structure State where
  /-- Its name. -/
  name : Octets
  /-- Its arguments. -/
  args : List Octets
  /-- The variables and their values, in the order in which they came; each name is there once. -/
  bindings : List (Octets × Octets)
  /-- The names of the variables that commands see. -/
  exported : List Octets
  /-- The names of the variables that must not change. -/
  constants : List Octets
  /-- The commands with names of their own; the first of a name counts. -/
  functions : List (Octets × Plan)
  /-- What is run at a signal or at the end, by its name; the first of a name counts. -/
  traps : List (Octets × Octets)
  /-- The values that variables get back when the current function ends, latest first. -/
  saved : List (Octets × Option Octets)
  /-- The letters of the options that are on. -/
  options : List Char
  /-- Whether the status of what runs now is looked at, so that a failure does not end the
  shell. -/
  isTested : Bool
  /-- How many loops are around what runs now. -/
  loops : Nat
  /-- Whether what runs now is part of a function. -/
  isInFunction : Bool
  /-- The line of the current command. -/
  line : Nat
  /-- What the descriptors refer to. -/
  handles : List (Nat × Handle)
  /-- The name of the current directory. -/
  dir : List Bytes
  /-- The status of the last command. -/
  status : Nat
  /-- The status of the last command whose output became part of a word. -/
  outputStatus : Nat
  /-- Whether this is the shell of the process and not one inside it. -/
  isMain : Bool

/-- A process that is running. -/
structure Machine where
  /-- The clock. -/
  now : Moment
  /-- What is still to come on standard input. -/
  coming : List Feed
  /-- What has come and has not been read. -/
  arrived : Octets
  /-- Whether nothing more can come. -/
  isClosed : Bool
  /-- What has been written to standard output, latest first. -/
  output : List (Moment × Bytes)
  /-- What has been written to standard error, latest first. -/
  errors : List (Moment × Bytes)
  /-- What is in the pipes inside the process. -/
  pipes : List Octets
  /-- The files. -/
  tree : FileTree
  /-- Until when a command that is not waited for runs. -/
  heldUntil : Moment
  /-- When standard input was closed, if the process did that. -/
  inputEnd : Option Moment
  /-- When standard output was closed, if the process did that. -/
  outputEnd : Option Moment
  /-- When standard error was closed, if the process did that. -/
  errorsEnd : Option Moment
  /-- The shell. -/
  shell : State

/-- Why a computation stops early. -/
inductive Stop where
  /-- It waits for ever. -/
  | waiting
  /-- The shell exits. -/
  | exited (status : Nat)
  /-- The current function ends. -/
  | returned (status : Nat)
  /-- So many loops end. -/
  | leaving (loops : Nat)
  /-- All but one of so many loops end, and that one goes on with its next round. -/
  | continuing (loops : Nat)
  /-- The process is killed. -/
  | killed
  deriving DecidableEq, Repr

/-- A computation on a machine. -/
abbrev Run (α : Type) := EStateM Stop Machine α

namespace Run

/-- The state of the shell. -/
def shell : Run State := do return (← get).shell

/-- The files. -/
def files : Run FileTree := do return (← get).tree

/-- Changes the state of the shell. -/
def modifyShell (f : State → State) : Run Unit := modify fun m => { m with shell := f m.shell }

/-- What a descriptor refers to. -/
def handle? (descriptor : Nat) : Run (Option Handle) := do
  return ((← shell).handles.find? (·.1 == descriptor)).map (·.2)

/-- Lets a descriptor refer to something else, or to nothing. -/
def setHandle (descriptor : Nat) (handle : Option Handle) : Run Unit :=
  modifyShell fun s =>
    let others := s.handles.filter (·.1 != descriptor)
    { s with handles := match handle with
        | some h => (descriptor, h) :: others
        | none => others }

/-- The value of a variable. -/
def valueOf? (name : Octets) : Run (Option Octets) := do
  return ((← shell).bindings.find? (·.1 == name)).map (·.2)

/-- Variables with another value for one of them. -/
def replaced (name value : Octets) : List (Octets × Octets) → List (Octets × Octets)
  | [] => [(name, value)]
  | v :: rest => if v.1 = name then (name, value) :: rest else v :: replaced name value rest

/-- Gives a variable a value. -/
def setVariable (name value : Octets) : Run Unit :=
  modifyShell fun s => { s with bindings := replaced name value s.bindings }

/-- Takes the value of a variable away. -/
def unsetVariable (name : Octets) : Run Unit :=
  modifyShell fun s =>
    { s with
      bindings := s.bindings.filter (·.1 != name)
      exported := s.exported.filter (· != name) }

/-- Shows a variable to commands. -/
def exportVariable (name : Octets) : Run Unit :=
  modifyShell fun s => { s with exported := name :: s.exported.filter (· != name) }

/-- The variables that commands see. -/
def environment : Run (List (Octets × Octets)) := do
  let s ← shell
  return s.bindings.filter fun v => s.exported.contains v.1

/-- The place of a variable among those that a shell hands on: a sum over the octets of its name,
where the first one counts most; a variable that the shell knows itself comes before others. -/
def rank (name : Octets) : Nat :=
  let sum := name.foldl (fun n c => n + c.toNat) ((name.headD '\x00').toNat * 16)
  let isKnown := ["PATH", "IFS", "OPTIND", "PS1", "PS2", "PS4", "TERM", "HISTSIZE", "MAIL",
    "MAILPATH"].any fun known => known.toList == name
  2 * (sum % 39) + if isKnown then 0 else 1

/-- Brings the variables into the order in which a shell hands them on. -/
def arrangeVariables : Run Unit :=
  modifyShell fun s =>
    { s with bindings := s.bindings.mergeSort fun a b => rank a.1 ≤ rank b.1 }

/-- A new pipe inside the process, holding the given octets. -/
def newPipe (content : Octets) : Run Handle := do
  let m ← get
  set { m with pipes := m.pipes ++ [content] }
  return .pipe m.pipes.length

/-- What is in a pipe inside the process. -/
def pipeContent (n : Nat) : Run Octets := do return ((← get).pipes[n]?).getD []

/-- Changes what is in a pipe inside the process. -/
def setPipe (n : Nat) (content : Octets) : Run Unit :=
  modify fun m => { m with pipes := m.pipes.set n content }

/-! ### Writing -/

/-- Writes octets to what a handle refers to. -/
def writeTo (handle : Handle) (cs : Octets) : Run Unit := do
  if cs.isEmpty then return
  match handle with
  | .output => modify fun m => { m with output := (m.now, toBytes cs) :: m.output }
  | .errors => modify fun m => { m with errors := (m.now, toBytes cs) :: m.errors }
  | .pipe n => setPipe n ((← pipeContent n) ++ cs)
  | .file name => modify fun m => { m with tree := m.tree.extend name (toBytes cs) }
  | .input => pure ()
  | .sink => pure ()

/-- Writes octets to a descriptor, if it refers to anything. -/
def write (descriptor : Nat) (cs : Octets) : Run Unit := do
  match ← handle? descriptor with
  | some handle => writeTo handle cs
  | none => pure ()

/-- Writes a line to standard error. -/
def complain (line : String) : Run Unit := write 2 (ofString (line ++ "\n"))

/-- Writes a line to standard error that begins with the name of the shell and the number of the
current line. -/
def shellComplains (text : String) : Run Unit := do
  let s ← shell
  complain s!"{toText s.name}: {s.line}: {text}"

/-- Ends the shell with a complaint. -/
def shellFails {α : Type} (text : String) : Run α := do
  shellComplains text
  throw (.exited 2)

/-! ### Reading -/

/-- Waits until something happens to the standard input of the process. -/
def receive : Run Unit := do
  let m ← get
  match m.coming with
  | .bytes moment content :: rest =>
    set { m with
      now := max m.now moment, coming := rest, arrived := m.arrived ++ ofBytes content }
  | .close moment :: _ =>
    set { m with now := max m.now moment, coming := [], isClosed := true }
  | [] => throw .waiting

/-- Waits until the standard input of the process is closed; `fuel` events at most. -/
def receiveAll : (fuel : Nat) → Run Unit
  | 0 => pure ()
  | fuel + 1 => do
    if (← get).isClosed then pure ()
    else
      receive
      receiveAll fuel

/-- Waits until a line has come on the standard input of the process, or its end; `fuel` events
at most. -/
def receiveLine : (fuel : Nat) → Run Unit
  | 0 => pure ()
  | fuel + 1 => do
    let m ← get
    if m.isClosed || m.arrived.contains '\n' then pure ()
    else
      receive
      receiveLine fuel

/-- How many events may still be waited for, and one more. -/
def eventRoom : Run Nat := do return (← get).coming.length + 1

/-- Takes all that there is in a descriptor up to its end. -/
def readAll (descriptor : Nat) : Run Octets := do
  match ← handle? descriptor with
  | some .input =>
    receiveAll (← eventRoom)
    let m ← get
    set { m with arrived := [] }
    return m.arrived
  | some (.pipe n) =>
    let content ← pipeContent n
    setPipe n []
    return content
  | _ => return []

/-- Takes a line from octets: the line, whether a line feed ends it, and what is left. -/
def splitLine (cs : Octets) : Octets × Bool × Octets :=
  let line := cs.takeWhile (· != '\n')
  match cs.drop line.length with
  | [] => (line, false, [])
  | _ :: rest => (line, true, rest)

/-- Takes a line from a descriptor, without its line feed; also whether there was one. -/
def readLine (descriptor : Nat) : Run (Octets × Bool) := do
  match ← handle? descriptor with
  | some .input =>
    receiveLine (← eventRoom)
    let m ← get
    let (line, complete, rest) := splitLine m.arrived
    set { m with arrived := rest }
    return (line, complete)
  | some (.pipe n) =>
    let (line, complete, rest) := splitLine (← pipeContent n)
    setPipe n rest
    return (line, complete)
  | _ => return ([], false)

/-- Hands on what comes from a descriptor to standard output as it comes; `fuel` events at
most. -/
def copyInput (descriptor : Nat) : (fuel : Nat) → Run Unit
  | 0 => pure ()
  | fuel + 1 => do
    match ← handle? descriptor with
    | some .input =>
      let m ← get
      set { m with arrived := [] }
      write 1 m.arrived
      if m.isClosed then pure ()
      else
        receive
        copyInput descriptor fuel
    | _ => write 1 (← readAll descriptor)

/-! ### Time -/

/-- Lets time pass. -/
def sleep (duration : Moment) : Run Unit := modify fun m => { m with now := m.now + duration }

/-- Runs a computation in a shell of its own; the shell around it stays as it is. -/
def inside (body : Run Nat) : Run Nat := do
  let outer ← shell
  modifyShell fun s => { s with isMain := false, traps := [], loops := 0 }
  let status ←
    tryCatch body fun
      | .exited status => pure status
      | .returned status => pure status
      | .leaving _ | .continuing _ => return (← shell).status
      | stop => throw stop
  modifyShell fun _ => outer
  return status

/-- Runs a computation that is not waited for, without standard input. -/
def aside (body : Run Nat) : Run Unit := do
  let start := (← get).now
  let _ ← inside do
    setHandle 0 (some .sink)
    body
  modify fun m => { m with now := start, heldUntil := max m.heldUntil m.now }

/-- Notes which ends of the pipes of the process nobody in its own shell refers to any more. -/
def noteClosed : Run Unit := do
  let m ← get
  if m.shell.isMain then
    let refers (handle : Handle) := m.shell.handles.any fun (_, h) => h == handle
    let noted (handle : Handle) (moment : Option Moment) :=
      if refers handle then moment else some (moment.getD m.now)
    set { m with
      inputEnd := noted .input m.inputEnd
      outputEnd := noted .output m.outputEnd
      errorsEnd := noted .errors m.errorsEnd }

end Run

end Shell

end ToolRelay
