import ToolRelay.Schema.Encode
import ToolRelay.Schema.OfJson
import ToolRelay.Schema.OfText
import ToolRelay.Json.Printer

/-!
# Messages between the dispatcher and a runner

Every message is a JSON object on a line of its own.  JSON escapes line breaks inside texts, so a
line is always exactly one message.

* `Wire.Request` asks for something, `Wire.Response` answers it.
* `Wire.RunParams` and `Wire.RunReply` are what a request to run a module carries.
* `Wire.encodeLine` writes a message.
-/

namespace ToolRelay

namespace Wire

/-- The protocol version that every message names. -/
def version : String := "2.0"

/-- The method that runs a module. -/
def methodRun : String := "run"

/-- The method that stops a runner. -/
def methodExit : String := "exit"

/-- A message that asks for something. -/
structure Request where
  /-- The protocol version. -/
  jsonrpc : String
  /-- The identity of the request; without one it needs no answer. -/
  id : Option Json
  /-- What is asked for. -/
  method : String
  /-- What the method needs to know. -/
  params : Json
  deriving Repr

/-- Why a request is refused. -/
structure RpcError where
  /-- The kind of refusal. -/
  code : Int
  /-- The reason in words. -/
  message : String
  deriving DecidableEq, Repr

/-- A message that answers a request. -/
structure Response where
  /-- The protocol version. -/
  jsonrpc : String
  /-- The identity of the request. -/
  id : Json
  /-- The answer. -/
  result : Option Json
  /-- Why there is no answer. -/
  error : Option RpcError
  deriving Repr

/-- What is needed to run a module. -/
structure RunParams where
  /-- The name of the module. -/
  module : String
  /-- The argument vector. -/
  argv : List String
  /-- Whether the source is sent to the standard input. -/
  useStdin : Bool
  /-- The working directory. -/
  cwd : Path
  /-- The text of the document. -/
  source : Option String
  /-- The workspace for which the module is run. -/
  workspace : Option String
  deriving DecidableEq, Repr

/-- What came of running a module. -/
structure RunReply where
  /-- What it wrote to standard output. -/
  stdout : String
  /-- What it wrote to standard error. -/
  stderr : String
  /-- The report of its fault, if it had one. -/
  exception : Option String
  deriving DecidableEq, Repr

/-! ### How messages are written -/

/-- How a request is written. -/
def Request.schema : Schema Request :=
  .record "Request"
    (.cons "jsonrpc" .required .text <|
      .cons "id" (.orOmitted none) (.optional .any) <|
      .cons "method" .required .text <|
      .cons "params" (.orElse .null) .any .nil)
    (fun (jsonrpc, id, method, params, ()) => ⟨jsonrpc, id, method, params⟩)
    (fun r => (r.jsonrpc, r.id, r.method, r.params, ()))

/-- How a refusal is written. -/
def RpcError.schema : Schema RpcError :=
  .record "RpcError"
    (.cons "code" .required .code <| .cons "message" .required .text .nil)
    (fun (code, message, ()) => ⟨code, message⟩)
    (fun e => (e.code, e.message, ()))

/-- How a response is written. -/
def Response.schema : Schema Response :=
  .record "Response"
    (.cons "jsonrpc" .required .text <|
      .cons "id" (.orElse .null) .any <|
      .cons "result" (.orOmitted none) (.optional .any) <|
      .cons "error" (.orOmitted none) (.optional RpcError.schema) .nil)
    (fun (jsonrpc, id, result, error, ()) => ⟨jsonrpc, id, result, error⟩)
    (fun r => (r.jsonrpc, r.id, r.result, r.error, ()))

/-- How the parameters of a run are written. -/
def RunParams.schema : Schema RunParams :=
  .record "RunParams"
    (.cons "module" .required .text <|
      .cons "argv" .required (.list .text) <|
      .cons "useStdin" .required .flag <|
      .cons "cwd" .required .path <|
      .cons "source" (.orElse none) (.optional .text) <|
      .cons "workspace" (.orElse none) (.optional .text) .nil)
    (fun (module, argv, useStdin, cwd, source, workspace, ()) =>
      ⟨module, argv, useStdin, cwd, source, workspace⟩)
    (fun p => (p.module, p.argv, p.useStdin, p.cwd, p.source, p.workspace, ()))

/-- How the reply to a run is written. -/
def RunReply.schema : Schema RunReply :=
  .record "RunReply"
    (.cons "stdout" (.orElse "") .text <|
      .cons "stderr" (.orElse "") .text <|
      .cons "exception" (.orElse none) (.optional .text) .nil)
    (fun (stdout, stderr, exception, ()) => ⟨stdout, stderr, exception⟩)
    (fun r => (r.stdout, r.stderr, r.exception, ()))

/-! ### Making messages -/

/-- A request in this version of the protocol. -/
def Request.make (id : Option Json) (method : String) (params : Json) : Request :=
  ⟨version, id, method, params⟩

/-- The response that answers the request `id`. -/
def Response.success (id result : Json) : Response := ⟨version, id, some result, none⟩

/-- The response that refuses the request `id`. -/
def Response.failure (id : Json) (e : RpcError) : Response := ⟨version, id, none, some e⟩

/-- The refusal of a line that is no request. -/
def RpcError.unreadable (message : String) : RpcError := ⟨-32700, message⟩

/-- The refusal of a request that is not of this protocol. -/
def RpcError.invalid (message : String) : RpcError := ⟨-32600, message⟩

/-- The refusal of a method that does not exist. -/
def RpcError.unknownMethod (message : String) : RpcError := ⟨-32601, message⟩

/-- The refusal of parameters that do not fit the method. -/
def RpcError.unfitParams (message : String) : RpcError := ⟨-32602, message⟩

/-- A message on a line of its own, with the line break. -/
def encodeLine {α : Type} (s : Schema α) (a : α) : Except Unwritable String := do
  return (← s.encode a).compact ++ "\n"

end Wire

end ToolRelay
