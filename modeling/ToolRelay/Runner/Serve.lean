import ToolRelay.Invocation.InProcess
import ToolRelay.Wire.Message
import ToolRelay.Text.Blank
import ToolRelay.Trace

/-!
# The runner

A runner reads requests line by line and answers each one that has an identity by exactly one line.
It runs modules inside this program.  A fault of a module is part of the reply; only what is wrong
with the request itself is refused.

* `Runner.run` runs a module, `Runner.answer` answers a request.
* `Runner.Line.ofBytes` says what a line asks for, `Runner.respond` what becomes of it.
* `Runner.serve` answers a whole input.
-/

namespace ToolRelay

namespace Runner

/-- The invocation that a request asks for: the argument vector begins with the module. -/
def invocation (p : Wire.RunParams) : Invocation where
  argv := if p.argv.head? = some p.module then p.argv else p.module :: p.argv
  useStdin := p.useStdin
  workingDir := p.cwd
  source := p.source

/-- Runs the module that a request names. -/
def run (b : InProcess) (p : Wire.RunParams) : Traced (Wire.RunReply × InProcess) := do
  match ← b.conduct (invocation p) with
  | (.ok r, b) => pure (⟨r.stdout, r.stderr, none⟩, b)
  | (.error f, b) => do
    Traced.fail f.report
    pure (⟨"", "", some f.report⟩, b)

/-- Answers a request. -/
def answer (b : InProcess) (r : Wire.Request) :
    Traced (Except Wire.RpcError Wire.RunReply × InProcess) :=
  if r.jsonrpc ≠ Wire.version then
    pure (.error (.invalid ("Unsupported jsonrpc version '" ++ r.jsonrpc ++ "'")), b)
  else if r.method ≠ Wire.methodRun then
    pure (.error (.unknownMethod ("Unknown method '" ++ r.method ++ "'")), b)
  else
    match Wire.RunParams.schema.decode r.params with
    | .error e => pure (.error (.unfitParams e.message), b)
    | .ok p => do
      let (reply, b) ← run b p
      pure (.ok reply, b)

/-- What a line says. -/
inductive Line where
  /-- It is not UTF-8. -/
  | foreign (flaw : Utf8.Flaw)
  /-- Nothing. -/
  | blank
  /-- It is no request. -/
  | unreadable (reason : String)
  /-- The runner is to stop. -/
  | stop
  /-- Something is asked for. -/
  | request (r : Wire.Request)
  deriving Repr

/-- What a line says, which is given with its line break. -/
def Line.ofBytes (line : Bytes) : Line :=
  match Utf8.firstFlaw? line with
  | some flaw => .foreign flaw
  | none =>
    let text := Utf8.lossy line
    if Text.isBlankText text then .blank
    else
      match Wire.Request.schema.parse text with
      | .error fault => .unreadable (fault.message text)
      | .ok r => if r.method = Wire.methodExit then .stop else .request r

/-- Whether a line stops the runner. -/
def Line.isStop : Line → Bool
  | .stop => true
  | _ => false

/-- What becomes of a line. -/
inductive Step where
  /-- There is nothing to answer. -/
  | silent
  /-- The line is answered. -/
  | response (r : Wire.Response)
  /-- The runner stops. -/
  | stop
  deriving Repr

/-- The response to the request `id`. -/
def responseTo (id : Json) : Except Wire.RpcError Wire.RunReply → Wire.Response
  | .ok reply =>
    match Wire.RunReply.schema.encode reply with
    | .ok result => .success id result
    | .error e => .failure id (.invalid e.message)
  | .error e => .failure id e

/-- What becomes of one line, which is given with its line break. -/
def respond (b : InProcess) (line : Bytes) : Traced (Step × InProcess) :=
  match Line.ofBytes line with
  | .foreign flaw => do
    Traced.warn ("Request is not valid UTF-8: " ++ flaw.message)
    pure (.response (.failure .null (.unreadable flaw.message)), b)
  | .blank => pure (.silent, b)
  | .unreadable reason => do
    Traced.warn ("Unparseable request: " ++ reason)
    pure (.response (.failure .null (.unreadable reason)), b)
  | .stop => pure (.stop, b)
  | .request r =>
    match r.id with
    | none => pure (.silent, b)
    | some id => do
      let (reply, b) ← answer b r
      pure (.response (responseTo id reply), b)

/-- The line of a response. -/
def responseLine (r : Wire.Response) : List String :=
  match Wire.encodeLine Wire.Response.schema r with
  | .ok line => [line]
  | .error _ => []

/-- Answers lines until one stops the runner. -/
def serveLines (b : InProcess) : List Bytes → Traced (List String)
  | [] => pure []
  | line :: rest => do
    let (step, b) ← respond b line
    match step with
    | .stop => pure []
    | .silent => serveLines b rest
    | .response r => do
      let others ← serveLines b rest
      pure (responseLine r ++ others)

/-- The lines of an input, each with its line break; the last one may have none. -/
def inputLines (input : Bytes) : List Bytes :=
  let pieces := Text.splitOnAll (· == 0x0A) input
  let ended := pieces.dropLast.map (· ++ [0x0A])
  let last := (pieces.getLast?).toList.filter (· ≠ [])
  ended ++ last

/-- The lines that a runner writes for an input. -/
def serve (b : InProcess) (input : Bytes) : Traced (List String) := serveLines b (inputLines input)

end Runner

end ToolRelay
