import ToolRelay.Cli.Arguments
import ToolRelay.Cli.Ending
import ToolRelay.Host.Behaviour
import ToolRelay.Module.Echo
import ToolRelay.Runner.Serve
import ToolRelay.Session.Frame
import ToolRelay.Session.Server
import ToolRelay.Settings.File

/-!
# The program

What the program does for its arguments.  `run` and `check` run the tool once, `runner` and `server`
go on as long as there is input.

* `Cli.runOnce` and `Cli.checkFile` run the tool once.
* `Cli.behaviour` is the whole program.
-/

namespace ToolRelay

namespace Cli

/-- Where the program runs. -/
structure Surroundings where
  /-- The system. -/
  host : Host
  /-- The environment. -/
  look : String → Option String
  /-- The path of the program itself. -/
  runtime : Path
  /-- Whether standard output is a terminal. -/
  isTerminal : Bool

/-- Whether labels are coloured. -/
def Surroundings.coloured (s : Surroundings) : Bool := isColoured s.look s.isTerminal

/-! ### The configuration -/

/-- Why there is no setup. -/
inductive LoadError where
  /-- The named configuration file does not exist. -/
  | missing (file : String)
  /-- The configuration cannot be used. -/
  | config (e : ConfigError)
  deriving DecidableEq, Repr

/-- The reason in words. -/
def LoadError.message : LoadError → String
  | .missing file => "Configuration file not found: " ++ file
  | .config e => e.message

/-- The setup from a configuration file, or from the standard one if none is named, and from the
environment. -/
def load (s : Surroundings) (config : Option String) : Except LoadError Setup :=
  let file := config.map Path.ofString
  if file.any fun p => !s.host.hasEntry p then .error (.missing (config.getD ""))
  else
    match FileConfig.load s.host file with
    | .error e => .error (.config e)
    | .ok c =>
      let environment := (Environment.ofVariables s.look).value
      .ok (.ofConfig s.host c environment (.builtins s.host) s.runtime)

/-! ### Running the tool once -/

/-- The ending of a run that tells about itself in `t`. -/
def endingOf (s : Surroundings) (skipped : String)
    (t : Traced (Except Failure (Option InvocationResult))) : Ending :=
  (Ending.ofOutcome s.coloured skipped t.value).after (notifications s.coloured t)

/-- Runs the tool without a document. -/
def runOnce (s : Surroundings) (config : Option String) (args : List String) : Ending :=
  match load s config with
  | .error e => .trouble s.coloured e.message
  | .ok setup =>
    endingOf s "" (do
      let d ← setup.build s.host
      let (r, _) ← d.runGlobal s.host args
      return r.map some)

/-- Runs the tool on a file. -/
def checkFile (s : Surroundings) (config : Option String) (file : Path) (useStdin : Bool)
    (args : List String) : Ending :=
  match s.host.readText file with
  | .error reason =>
    .trouble s.coloured ("Failed to read " ++ file.display ++ ": " ++ reason.message)
  | .ok source =>
    match load s config with
    | .error e => .trouble s.coloured e.message
    | .ok setup =>
      endingOf s ("Skipped " ++ file.display ++ "\n") (do
        let d ← setup.build s.host
        let document := Document.ofPath (← s.host.absolutize file) source
        let (r, _) ← d.runDocument s.host document useStdin args
        return r)

/-! ### Going on as long as there is input -/

/-- The lines that have come; the last one counts only if it is complete. -/
def linesSoFar (input : Bytes) (isClosed : Bool) : List Bytes :=
  let lines := Runner.inputLines input
  if isClosed || input.getLast? = some 0x0A then lines else lines.dropLast

/-- Serves another program of this kind. -/
def serveRunner (setup : Setup) : Behaviour := fun input isClosed =>
  let lines := linesSoFar input isClosed
  let answers := (Runner.serveLines ⟨setup.registry, setup.searchPath⟩ lines).value
  let isOver := isClosed || lines.any fun line => (Runner.Line.ofBytes line).isStop
  ⟨Utf8.encode (String.join answers), [], if isOver then some 0 else none⟩

/-- What a server sends for the contents of frames, and whether it has ended. -/
def serveFrames (host : Host) (s : Server) : List (Option Bytes) → Bytes × Bool
  | [] => ([], false)
  | content :: rest =>
    if s.phase = .done then ([], true)
    else
      let t := s.receive host content
      let sent := (Server.outgoing t).flatMap fun j => Frame.encode j.compact
      let (others, isOver) := serveFrames host t.value.2 rest
      (sent ++ others, isOver)

/-- Serves an editor. -/
def serveEditor (s : Surroundings) (setup : Setup) : Behaviour := fun input isClosed =>
  let server := (Server.start s.host setup).value
  let (output, isOver) := serveFrames s.host server (Frame.readAll input)
  ⟨output, [], if isClosed || isOver then some 0 else none⟩

/-! ### The whole program -/

/-- How the program is to be called. -/
def usage : String :=
  "Usage: " ++ programName ++ " [--config FILE] [--verbose] COMMAND\n\n" ++
  "Commands:\n" ++
  "  server [--port PORT]            serve an editor\n" ++
  "  runner                          serve another process of this program\n" ++
  "  run [-- ARGS...]                run the tool without a document\n" ++
  "  check FILE [--stdin] [-- ARGS]  run the tool on a file\n" ++
  "  version                         tell the version\n"

/-- The name of the program with its version, on a line. -/
def versionLine : String := programName ++ " " ++ programVersion ++ "\n"

/-- A program that ends at once. -/
def ended (code : Nat) (stdout stderr : String) : Behaviour := fun _ _ =>
  ⟨Utf8.encode stdout, Utf8.encode stderr, some code⟩

/-- A program that ends at once with an ending. -/
def Ending.behaviour (e : Ending) : Behaviour := ended e.status.code e.stdout e.stderr

/-- A program that needs a setup. -/
def withSetup (s : Surroundings) (config : Option String) (serve : Setup → Behaviour) : Behaviour :=
  match load s config with
  | .error e => (Ending.trouble s.coloured e.message).behaviour
  | .ok setup => serve setup

/-- The program with arguments that can be carried out.  A socket is never opened. -/
def perform (s : Surroundings) (a : Arguments) : Behaviour :=
  match a.command with
  | .version => ended 0 versionLine ""
  | .run args => (runOnce s a.config args).behaviour
  | .check file useStdin args => (checkFile s a.config file useStdin args).behaviour
  | .runner => withSetup s a.config serveRunner
  | .server none => withSetup s a.config (serveEditor s)
  | .server (some socket) =>
    withSetup s a.config fun _ =>
      ended ExitStatus.toolError.code "" s!"Failed to start LSP server on port {socket}\n"

/-- The program with the words after its name. -/
def behaviour (s : Surroundings) (words : List Bytes) : Behaviour :=
  match read words with
  | .ok a => perform s a
  | .error .help => ended 0 usage ""
  | .error .version => ended 0 versionLine ""
  | .error .misuse => ended ExitStatus.toolError.code "" usage

end Cli

end ToolRelay
