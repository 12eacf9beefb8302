import ToolRelay.Shell.Evaluate

/-!
# A host in memory

`Shell.host` is a host whose files are those of a tree and whose processes are run by the shell of
this library, with a clock of its own.  What a process writes to files is for itself alone.  One
program comes from outside; it sees a host like this one itself, so the number of hosts inside each
other is limited.

This host is there to run the library on given files and scripts and to compare what comes of it.
It and the modules of the shell below it stand for the system and for the programs that tests
start; no function of the library uses them, and the laws of the library hold on every host.
-/

namespace ToolRelay

namespace Shell

/-- The programs of a bare system. -/
def programNames : List String :=
  ["sh", "cat", "sed", "wc", "pwd", "printf", "echo", "true", "false", "sleep", "env"]

/-- The name of a path in a tree. -/
def nameOf (path : String) : List Bytes := FileTree.nameOf (Path.ofString path)

/-- The files of a bare system. -/
def bareTree : FileTree :=
  let withPrograms := programNames.foldl
    (fun (t : FileTree) name =>
      (t.insert (nameOf ("/bin/" ++ name)) (.program name)).insert
        (nameOf ("/usr/bin/" ++ name)) (.program name))
    FileTree.empty
  let accounts := Utf8.encode "root:x:0:0:root:/root:/bin/sh\n"
  ((withPrograms.insert (nameOf "/etc/passwd") (.file accounts false)).insert
    (nameOf "/dev/null") .sink).insert (nameOf "/tmp") .directory

/-- How deep the running of a command may go. -/
def maxSteps : Nat := 20000

/-- The machine of a process that starts in a directory with an environment. -/
def machineOf (tree : FileTree) (dir : List Bytes) (environment : List (String × String))
    (feeds : List Feed) : Machine where
  now := 0
  coming := feeds
  arrived := []
  isClosed := false
  output := []
  errors := []
  pipes := []
  tree := tree
  heldUntil := 0
  inputEnd := none
  outputEnd := none
  errorsEnd := none
  shell :=
    { name := "sh".toList
      args := []
      bindings := environment.map fun (k, v) => (ofString k, ofString v)
      exported := environment.map fun (k, _) => ofString k
      constants := []
      functions := []
      traps := []
      saved := []
      options := []
      isTested := false
      loops := 0
      isInFunction := false
      line := 1
      handles := [(0, .input), (1, .output), (2, .errors)]
      dir := dir
      status := 0
      outputStatus := 0
      isMain := true }

/-- A machine that has stopped, and how its process has ended; it has not if it waits for input. -/
abbrev Stopped := Machine × Option Exit

/-- When nobody reads the standard input of the process any more. -/
def inputEnd? (s : Stopped) : Option Moment := s.1.inputEnd <|> s.2.map fun _ => s.1.now

/-- How many octets a pipe holds. -/
def pipeCapacity : Nat := 65536

/-- How many octets have been written to the process that it has not read. -/
def unread (s : Stopped) : Nat :=
  let count (n : Nat) : Feed → Nat
    | .bytes _ content => n + content.length
    | .close _ => n
  s.1.coming.foldl count s.1.arrived.length

/-- What comes of a write at a moment.  Nobody reads it any more if that was so without it
(`before`), but a process that has only just been started is not so far yet.  What does not fit into
the pipe is lost if it is not read. -/
def deliveryOf (before : Option Stopped) (after : Stopped) (moment : Moment) : Delivery :=
  if (before.bind inputEnd?).any (· ≤ moment) then .refused moment .brokenPipe
  else
    match inputEnd? after with
    | some finish =>
      if pipeCapacity < unread after then .refused finish .brokenPipe else .complete moment
    | none => .complete moment

/-- What has become of a process whose machine has stopped. -/
def courseOf (s : Stopped) (delivery : Delivery) : Course :=
  let (m, exit) := s
  let released := exit.map fun _ => max m.now m.heldUntil
  { output := m.output.reverse
    errors := m.errors.reverse
    outputEnd := m.outputEnd <|> released
    errorsEnd := m.errorsEnd <|> released
    ending := exit.map fun e => (m.now, e)
    waitRefusal := none
    readRefusal := none
    delivery := delivery }

/-- Runs a program as far as it goes. -/
def runProgram (native : Native) (e : Executable) (args : List Octets) (m : Machine) : Stopped :=
  match Run.program native maxSteps e args m with
  | .ok status m => (m, some (.code (status % 256)))
  | .error (.exited status) m => (m, some (.code (status % 256)))
  | .error .killed m => (m, some .signal)
  | .error .waiting m => (m, none)
  | .error _ m => (m, some (.code (m.shell.status % 256)))

/-- The process that runs a program. -/
def processOf (native : Native) (tree : FileTree) (dir : List Bytes)
    (environment : List (String × String)) (e : Executable) (args : List Octets) : Process where
  course feeds :=
    let run (feeds : List Feed) : Stopped :=
      runProgram native e args (machineOf tree dir environment feeds)
    let after := run feeds
    match feeds.getLast? with
    | some (.bytes moment _) =>
      let earlier := feeds.dropLast
      let before := if earlier.isEmpty then none else some (run earlier)
      courseOf after (deliveryOf before after moment)
    | _ => courseOf after (.complete 0)

/-- The greatest length of one argument. -/
def maxArgument : Nat := 131071

/-- An environment with variables set on top of it, by name if there are any. -/
def overlay (environment changes : List (String × String)) : List (String × String) :=
  if changes.isEmpty then environment
  else
    let all := changes ++ environment.filter fun (k, _) => !(changes.any fun c => c.1 == k)
    all.mergeSort fun a b => a.1 ≤ b.1

/-- Starts a command from the directory `dir`. -/
def start (native : Native) (tree : FileTree) (dir : List Bytes)
    (environment : List (String × String)) (c : Command) : Except Refusal Process := do
  let args := c.args.map ofString
  let texts := c.program :: c.args ++ c.env.flatMap fun (k, v) => [k, v]
  if texts.any (·.toList.contains '\x00') || (c.dir.any fun d => d.bytes.contains 0) then
    throw .nulInCommand
  let inside ← match c.dir with
    | none => .ok dir
    | some d =>
      match tree.lookup dir d with
      | .ok (name, .directory) => .ok name
      | .ok _ => .error .notADirectory
      | .error r => .error r
  let environment := overlay environment c.env
  let path := (environment.find? (·.1 == "PATH")).map fun v => ofString v.2
  let e ← executable tree inside path (ofString c.program)
  if args.any fun a => maxArgument < a.length then throw .tooManyArguments
  return processOf native tree inside environment e args

/-- A host with the files of a tree, in the directory `dir` and with an environment.  `program`
is the program from outside, which sees a host too; `depth` hosts may be inside each other. -/
def host (program : Host → List (String × String) → List Bytes → Behaviour) (tree : FileTree) :
    (depth : Nat) → (dir : List Bytes) → (environment : List (String × String)) → Host
  | 0, dir, _ => (Place.mk tree dir).host fun _ => .error .notFound
  | depth + 1, dir, environment =>
    let native : Native := fun tree dir environment args =>
      program (host program tree depth dir environment) environment args
    (Place.mk tree dir).host (start native tree dir environment)

end Shell

end ToolRelay
