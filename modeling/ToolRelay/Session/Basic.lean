import ToolRelay.Dispatch.Dispatcher
import ToolRelay.Json.Printer
import ToolRelay.Session.Texts
import ToolRelay.Settings.Entry
import ToolRelay.Text.Quoted

/-!
# Editor sessions

A session answers one editor: it takes its settings, keeps the texts of its open documents and
runs the tool when a document is opened or saved or when the editor asks for it by a command.

* `Session.setUp` and `Session.configure` take settings.
* `Session.document` takes what happened to a document.
* `Session.command` runs the tool without a document.
-/

namespace ToolRelay

/-- The name and the version of this program. -/
def programName : String := "toolbridge"

/-- The version of this program. -/
def programVersion : String := "0.1.0"

/-- Why a command has no result. -/
inductive CommandError where
  /-- There is no such command. -/
  | unknown (command : String)
  /-- The module in this program raised a fault. -/
  | raised (failure : Failure)
  deriving DecidableEq, Repr

/-- The error in words. -/
def CommandError.message : CommandError → String
  | .unknown command => "Unknown command '" ++ command ++ "'"
  | .raised failure => failure.summary

/-- A session. -/
structure Session where
  /-- What the session was made from. -/
  setup : Setup
  /-- Prepares and executes runs. -/
  dispatcher : Dispatcher
  /-- The texts of the open documents. -/
  texts : Texts

namespace Session

/-- The command that runs the tool without a document. -/
def runCommand : String := "toolbridge.run"

/-- A session before the editor has said anything. -/
def start (host : Host) (setup : Setup) : Traced Session := do
  return ⟨setup, ← setup.build host, .empty⟩

/-! ### Settings -/

/-- A value on several lines; nothing for one that cannot be written. -/
def shown {α : Type} (s : Schema α) (a : α) : String :=
  match s.encode a with
  | .ok j => j.pretty
  | .error _ => ""

/-- Tells the output log what the session works with. -/
def logSetUp (host : Host) (s : Session) : Traced Unit := do
  let output := s.dispatcher.output
  let snapshot := s.dispatcher.store.snapshot
  output.log ("CWD Server: " ++ (← host.workingDir).display)
  output.log ("Module search path used to run the server: " ++
    Text.bracketed (s.setup.searchPath.map Text.quotedPath))
  output.log ("Settings used to run the server: " ++
    shown (.list SettingsRecord.schema) snapshot.records)
  output.log ("Global settings: " ++ shown GlobalSettings.schema snapshot.global)

/-- Takes the options with which the editor opens the session.  What they say about all workspaces
comes before what the configuration file says. -/
def setUp (host : Host) (s : Session) (payload : Option Json) : Traced Session := do
  let options ← EditorOptions.ofPayload payload
  let dispatcher ← s.dispatcher.setUp host (s.setup.global.merge options.global) options.settings
  let s := { s with dispatcher }
  s.logSetUp host
  return s

/-- What the session tells the editor about itself. -/
def greeting (s : Session) : Json :=
  .object [
    ("capabilities", .object [
      ("textDocumentSync", .object [("openClose", .bool true), ("change", .int 1),
        ("save", .object [("includeText", .bool true)])]),
      ("executeCommandProvider", .object [("commands", Json.texts [runCommand])])]),
    ("serverInfo", .object [("name", .text s.dispatcher.tool.displayName),
      ("version", .text programVersion)])]

/-- Tells the output log that the session has begun. -/
def announce : Traced Unit :=
  Traced.send ⟨.info, programName ++ " Language Server started", false⟩

/-- Takes a change of the configuration. -/
def configure (host : Host) (s : Session) (payload : Json) : Traced Session := do
  let entries ← WorkspaceEntry.ofChange? payload
  return { s with dispatcher := ← s.dispatcher.replace host entries }

/-! ### Documents -/

/-- The document with a URI and a text. -/
def documentOf (uri : Uri) (text : String) : Document := ⟨uri.spell, uri.toPath?, text⟩

/-- Runs the tool on a document. -/
def runOn (host : Host) (s : Session) (uri : Uri) (text : String) : Traced Session := do
  let d := s.dispatcher
  let (r, dispatcher) ← d.runDocument host (documentOf uri text) d.tool.useStdin []
  match r with
  | .ok _ => pure ()
  | .error failure => Traced.fail ("Tool raised for " ++ uri.spell ++ ": " ++ failure.summary)
  return { s with dispatcher }

/-- Takes what happened to a document. -/
def document (host : Host) (s : Session) (e : DocumentEvent) : Traced Session :=
  let next := { s with texts := s.texts.after e }
  match s.texts.toRun e with
  | some text => next.runOn host e.uri text
  | none => pure next

/-! ### Commands -/

/-- The reply to a command that has a result. -/
def replyOf (r : InvocationResult) : Json :=
  .object [("stdout", .text r.stdout), ("stderr", .text r.stderr)]

/-- The texts among the arguments of a command. -/
def textArguments (arguments : List Json) : List String :=
  arguments.filterMap fun
    | .text s => some s
    | _ => none

/-- Carries out a command.  Arguments that are not texts are ignored. -/
def command (host : Host) (s : Session) (name : String) (arguments : List Json) :
    Traced (Except CommandError Json × Session) := do
  if name ≠ runCommand then return (.error (.unknown name), s)
  else
    let (r, dispatcher) ← s.dispatcher.runGlobal host (textArguments arguments)
    return ((r.map replyOf).mapError .raised, { s with dispatcher })

/-- Stops all runners. -/
def shutdown (s : Session) : Session := { s with dispatcher := s.dispatcher.shutdown }

/-! ### The diagnostic log -/

/-- What an event leaves in the diagnostic log of a session: notes, and the failures and warnings
of the output log. -/
def diagnosticOf : Event → Option (Severity × String)
  | .note severity text => some (severity, text)
  | .message ⟨.error, text, false⟩ => some (.error, text)
  | .message ⟨.warning, text, false⟩ => some (.warn, text)
  | .message _ | .deed _ => none

/-- The diagnostic log of a computation in a session. -/
def diagnostics {α : Type} (t : Traced α) : List (Severity × String) :=
  t.events.filterMap diagnosticOf

end Session

end ToolRelay
