import ToolRelay.Invocation.Basic
import ToolRelay.Remote.Conversation
import ToolRelay.Settings.Choices
import ToolRelay.Wire.Message

/-!
# Running modules under another runtime

A module runs in a runner, which is started under the interpreter of the workspace and kept for
later requests.  The pool keeps one runner for each `Key`.  A runner that fails a request is
forgotten; a fault of the module is no failure of the runner.  While the program waits for a runner
that never answers, which it does if there is no time limit, the runner is kept.
-/

namespace ToolRelay

namespace Remote

/-- Where and under which runtime a module runs. -/
structure Target where
  /-- The root of the workspace. -/
  workspace : Path
  /-- The command line of the runtime. -/
  interpreter : List String
  /-- The name of the module. -/
  module : String
  /-- Where bundled modules stand on the search path. -/
  importStrategy : ImportStrategy
  deriving Repr

/-- What runners are told apart by. -/
structure Key where
  /-- The root of the workspace. -/
  workspace : Path
  /-- The command line of the runtime. -/
  interpreter : List String
  /-- Where bundled modules stand on the search path. -/
  importStrategy : ImportStrategy
  deriving Repr

/-- The key of a target. -/
def Target.key (t : Target) : Key := ⟨t.workspace, t.interpreter, t.importStrategy⟩

/-- Whether two keys stand for the same runner. -/
def Key.agrees (a b : Key) : Bool :=
  a.workspace.agrees b.workspace && a.interpreter == b.interpreter &&
    a.importStrategy == b.importStrategy

/-- The runners that are kept. -/
structure Pool where
  /-- The arguments after the interpreter that make it a runner. -/
  runnerArgs : List String
  /-- How many milliseconds a response may take; 0 for as long as it wants. -/
  timeoutMs : Nat
  /-- The runners. -/
  runners : List (Key × Conversation)
  /-- The identity of the next request; after the greatest one they begin anew. -/
  nextId : UInt64

namespace Pool

/-- A pool without runners. -/
def new (runnerArgs : List String) (timeoutMs : Nat) : Pool := ⟨runnerArgs, timeoutMs, [], 1⟩

/-- How many runners are kept. -/
def running (p : Pool) : Nat := p.runners.length

/-- The runner of a key. -/
def find? (p : Pool) (key : Key) : Option Conversation :=
  (p.runners.find? (·.1.agrees key)).map (·.2)

/-- The pool without the runner of a key. -/
def evict (p : Pool) (key : Key) : Pool :=
  { p with runners := p.runners.filter (!·.1.agrees key) }

/-- The pool with a runner for a key. -/
def keep (p : Pool) (key : Key) (c : Conversation) : Pool :=
  { p.evict key with runners := (key, c) :: (p.evict key).runners }

/-- The pool when one more request has been made. -/
def asked (p : Pool) : Pool := { p with nextId := p.nextId + 1 }

/-- The pool after all runners have been stopped. -/
def shutdown (p : Pool) : Pool := { p with runners := [] }

/-- The command line of a runner. -/
def command (host : Host) (p : Pool) (key : Key) (program : String) (args : List String) :
    Command where
  program := program
  args := args ++ p.runnerArgs
  dir := if host.isDir key.workspace then some key.workspace else none
  env := [(ImportStrategy.key, key.importStrategy.name)]

/-- Starts a runner for a key. -/
def launch (host : Host) (p : Pool) (key : Key) :
    Traced (Except TransportError Conversation) :=
  match key.interpreter with
  | [] => pure (.error .noInterpreter)
  | program :: args => do
    match ← host.launch (p.command host key program args) with
    | .ok process => return .ok (.start process)
    | .error reason => return .error (.start program reason)

/-- What comes of starting a runner for a key. -/
def spawn (host : Host) (p : Pool) (key : Key) : Except TransportError Conversation :=
  (p.launch host key).value

/-- Calls on the runner of a key, which is started if there is none. -/
def engage (host : Host) (p : Pool) (key : Key) :
    Traced (Except TransportError Conversation) :=
  match p.find? key with
  | some c => pure (.ok c)
  | none => p.launch host key

/-- The runner of a key, which is started if there is none. -/
def runnerFor (host : Host) (p : Pool) (key : Key) : Except TransportError Conversation :=
  (p.engage host key).value

/-- What a request tells the runner. -/
def params (t : Target) (i : Invocation) : Wire.RunParams where
  module := t.module
  argv := i.argv
  useStdin := i.useStdin
  cwd := i.workingDir
  source := i.source
  workspace := some t.workspace.display

/-- The line of a request. -/
def requestLine (id : Nat) (t : Target) (i : Invocation) : Except TransportError String :=
  let line := do
    let params ← Wire.RunParams.schema.encode (params t i)
    Wire.encodeLine Wire.Request.schema (.make (some (.int id)) Wire.methodRun params)
  match line with
  | .ok line => .ok line
  | .error e => .error (.malformed e.message)

/-- Whether an identity in a response is that of the request `id`. -/
def isId (id : Nat) : Json → Bool
  | .int n => n == id
  | _ => false

/-- The reply in a line that should answer the request `id`. -/
def replyIn (id : Nat) (line : String) : Except TransportError Wire.RunReply :=
  match Wire.Response.schema.parse line with
  | .error fault => .error (.malformed (fault.message line))
  | .ok response =>
    if !isId id response.id then .error (.foreignId id response.id.compact)
    else
      match response.error, response.result with
      | some e, _ => .error (.refused e.code e.message)
      | none, none => .error (.malformed "response has neither result nor error")
      | none, some result =>
        match Wire.RunReply.schema.decode result with
        | .ok reply => .ok reply
        | .error complaint => .error (.malformed complaint.message)

/-- Sends the request `id` and waits for the reply. -/
def call (c : Conversation) (timeoutMs id : Nat) (t : Target) (i : Invocation) :
    Except Obstacle Wire.RunReply × Conversation :=
  match requestLine id t i with
  | .error e => (.error (.error e), c)
  | .ok line =>
    match c.send line with
    | (.error obstacle, c) => (.error obstacle, c)
    | (.ok (), c) =>
      match c.receive timeoutMs with
      | (.error obstacle, c) => (.error obstacle, c)
      | (.ok answer, c) => ((replyIn id answer).mapError .error, c)

/-- The result that a reply stands for.  The fault of a module is told by its first line that is
not blank. -/
def resultOf (reply : Wire.RunReply) : InvocationResult :=
  match reply.exception with
  | none => .ofOutput reply.stdout reply.stderr
  | some trace =>
    let summary := (Text.firstFullLine? trace).getD "Remote module raised"
    .failed ⟨.moduleFault, summary, some trace⟩

/-- What an invocation comes to with the runner that there is for it, if there is one.  There is no
result if the program waits for ever. -/
def complete (p : Pool) (t : Target) (i : Invocation) :
    Except TransportError Conversation → InvocationResult × Pool
  | .error e => (.failed ⟨.transport, e.message, none⟩, p)
  | .ok c =>
    match call c p.timeoutMs p.nextId.toNat t i with
    | (.ok reply, c) => (resultOf reply, p.asked.keep t.key c)
    | (.error (.error e), _) => (.failed ⟨.transport, e.message, none⟩, p.asked.evict t.key)
    | (.error .halt, c) => (.pending, p.asked.keep t.key c)

/-- Runs a module in the runner for its target. -/
def conduct (host : Host) (p : Pool) (t : Target) (i : Invocation) :
    Traced (InvocationResult × Pool) := do
  let runner ← p.engage host t.key
  return p.complete t i runner

/-- What comes of running a module in the runner for its target. -/
def invoke (host : Host) (p : Pool) (t : Target) (i : Invocation) : InvocationResult × Pool :=
  (p.conduct host t i).value

theorem invoke_eq (host : Host) (p : Pool) (t : Target) (i : Invocation) :
    p.invoke host t i = p.complete t i (p.runnerFor host t.key) := rfl

end Pool

end Remote

end ToolRelay
