import ToolRelay.Dispatch.Prepare
import ToolRelay.Invocation.Direct
import ToolRelay.Invocation.InProcess
import ToolRelay.Module.SearchPath
import ToolRelay.Remote.Pool

/-!
# The dispatcher

The dispatcher prepares runs and executes them in the way that the settings ask for.  A fault of a
module in this program is raised to the caller; every other failure is reported on the output
channel and comes back as part of the result.
-/

namespace ToolRelay

/-- A dispatcher. -/
structure Dispatcher where
  /-- What runs are prepared from. -/
  preparation : Preparation
  /-- The runners under other runtimes. -/
  pool : Remote.Pool
  /-- The modules of this program. -/
  modules : InProcess

namespace Dispatcher

/-- The tool. -/
def tool (d : Dispatcher) : ToolSpec := d.preparation.tool

/-- The settings. -/
def store (d : Dispatcher) : Store := d.preparation.store

/-- The output channel. -/
def output (d : Dispatcher) : OutputChannel := d.preparation.output

/-- The dispatcher with other settings. -/
def withStore (d : Dispatcher) (store : Store) : Dispatcher :=
  { d with preparation := { d.preparation with store } }

/-- The settings at the opening of a session. -/
def setUp (host : Host) (d : Dispatcher) (global : GlobalSettings)
    (entries : Option (List WorkspaceEntry)) : Traced Dispatcher := do
  return d.withStore (← d.store.setUp host global entries)

/-- The settings after a change of the configuration. -/
def replace (host : Host) (d : Dispatcher) (entries : Option (List WorkspaceEntry)) :
    Traced Dispatcher := do
  return d.withStore (← d.store.replace host entries)

/-- The command line of a run, as the output log shows it. -/
def shownCommand (runtime : Path) (p : Prepared) : String :=
  match p.strategy with
  | .direct => p.request.commandLine
  | .remote => " ".intercalate p.record.interpreterPath ++ " -m " ++ p.request.commandLine
  | .inProcess => runtime.display ++ " -m " ++ p.request.commandLine

/-- The runner that a run asks for. -/
def target (tool : ToolSpec) (record : SettingsRecord) : Remote.Target :=
  ⟨record.workspaceRoot, record.interpreterPath, tool.module, record.importStrategy⟩

/-- Hands a run to the one backend that its strategy names; a fault is that of a module in this
program. -/
def conduct (host : Host) (d : Dispatcher) (p : Prepared) :
    Traced (Except Failure InvocationResult × Dispatcher) :=
  match p.strategy with
  | .direct => do
    let r ← Direct.conduct host d.tool.timeoutMs p.request
    return (.ok r, d)
  | .remote => do
    let (r, pool) ← d.pool.conduct host (target d.tool p.record) p.request
    return (.ok r, { d with pool })
  | .inProcess => do
    let (r, modules) ← d.modules.conduct p.request
    return (r, { d with modules })

/-- What comes of handing a run to its backend. -/
def perform (host : Host) (d : Dispatcher) (p : Prepared) :
    Except Failure InvocationResult × Dispatcher :=
  (d.conduct host p).value

section

variable {host : Host} {d : Dispatcher} {p : Prepared}

theorem perform_direct (h : p.strategy = .direct) :
    d.perform host p = (.ok (Direct.invoke host d.tool.timeoutMs p.request), d) := by
  rw [perform, conduct, h]
  rfl

theorem perform_remote (h : p.strategy = .remote) :
    d.perform host p = (.ok (d.pool.invoke host (target d.tool p.record) p.request).1,
      { d with pool := (d.pool.invoke host (target d.tool p.record) p.request).2 }) := by
  rw [perform, conduct, h]
  rfl

theorem perform_inProcess (h : p.strategy = .inProcess) :
    d.perform host p = ((d.modules.invoke p.request).1,
      { d with modules := (d.modules.invoke p.request).2 }) := by
  rw [perform, conduct, h]
  rfl

end

/-- What the output log shows about a result; `label` names the document. -/
def showResult (output : OutputChannel) (label : String) (r : InvocationResult) :
    Traced Unit := do
  match r.failure with
  | some f => output.error f.report
  | none => pure ()
  if r.stderr.isEmpty then pure () else output.log r.stderr
  output.log (label ++ " :\r\n" ++ r.stdout)

/-- Executes a run.  Messages are raised at least as readily as the settings of the document
ask. -/
def execute (host : Host) (d : Dispatcher) (p : Prepared) (label : String) :
    Traced (Except Failure InvocationResult × Dispatcher) := do
  let output := d.output.atLeast p.record.notificationLevel
  output.log (shownCommand d.store.runtime p)
  output.log ("CWD Server: " ++ p.request.workingDir.display)
  match ← d.conduct host p with
  | (.ok r, d) => do
    showResult output label r
    return (.ok r, d)
  | (.error f, d) => do
    output.error f.report
    return (.error f, d)

/-- Runs the tool on a document; there is no result for a document that is left out. -/
def runDocument (host : Host) (d : Dispatcher) (document : Document) (useStdin : Bool)
    (extra : List String) : Traced (Except Failure (Option InvocationResult) × Dispatcher) := do
  match ← d.preparation.document host document useStdin extra with
  | .error _ => return (.ok none, d)
  | .ok prepared => do
    let (r, d) ← d.execute host prepared document.displayName
    return (r.map some, d)

/-- Runs the tool without a document. -/
def runGlobal (host : Host) (d : Dispatcher) (extra : List String) :
    Traced (Except Failure InvocationResult × Dispatcher) := do
  let prepared ← d.preparation.global host extra
  d.execute host prepared ""

/-- Stops every runner. -/
def shutdown (d : Dispatcher) : Dispatcher := { d with pool := d.pool.shutdown }

end Dispatcher

/-- All that a dispatcher is made from. -/
structure Setup where
  /-- The tool. -/
  tool : ToolSpec
  /-- The global settings of the configuration file. -/
  global : GlobalSettings
  /-- What the environment says. -/
  environment : Environment
  /-- The modules. -/
  registry : Registry
  /-- The module search path. -/
  searchPath : List Path
  /-- The program that runs now. -/
  runtime : Path

namespace Setup

/-- The setup from the configuration file and the environment. -/
def ofConfig (host : Host) (config : FileConfig) (environment : Environment)
    (registry : Registry) (runtime : Path) : Setup where
  tool := config.tool
  global := config.global
  environment := environment
  registry := registry
  searchPath := SearchPath.ofEnvironment host environment config.tool.bundledPath
  runtime := runtime

/-- The dispatcher before any settings. -/
def dispatcher (s : Setup) : Dispatcher where
  preparation :=
    { tool := s.tool
      store := .new s.runtime
      check := s.tool.syntaxCheck.check
      output := ⟨s.environment.showNotifications⟩ }
  pool := .new s.tool.runnerArgs s.tool.timeoutMs
  modules := ⟨s.registry, s.searchPath⟩

/-- The dispatcher with the settings of the configuration file. -/
def build (host : Host) (s : Setup) : Traced Dispatcher := s.dispatcher.setUp host s.global none

end Setup

end ToolRelay
