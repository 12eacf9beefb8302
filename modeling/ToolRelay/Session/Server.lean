import ToolRelay.Json.Value
import ToolRelay.Schema.OfJson
import ToolRelay.Session.Basic
import ToolRelay.Session.Parameters

/-!
# Serving an editor

An editor calls a session by JSON messages.  A message with an identity is answered; what the
session has to say in between goes out as messages without one.

* `Server.Call.ofMessage` reads a message.
* `Server.answer` carries out a call, `Server.receive` what a text asks for.
* `Server.outgoing` is what goes out because of it, in order.
-/

namespace ToolRelay

namespace Server

/-- How far the editor has come. -/
inductive Phase where
  /-- The session is not set up. -/
  | fresh
  /-- The session serves. -/
  | ready
  /-- The session has been shut down. -/
  | shut
  /-- The server ends. -/
  | done
  deriving DecidableEq, Repr

/-- Why a call is refused. -/
inductive CallError where
  /-- The text is no JSON. -/
  | unreadable
  /-- The message is no call, or comes at the wrong time. -/
  | invalid
  /-- The session is not set up. -/
  | notReady
  /-- There is no such method, or it is known but not served. -/
  | unserved (method : Option String)
  /-- The parameters do not fit the method. -/
  | unfitParams (reason : String)
  /-- A command has no result. -/
  | command (e : CommandError)
  deriving DecidableEq, Repr

/-- The number of the error. -/
def CallError.code : CallError → Int
  | .unreadable => -32700
  | .invalid => -32600
  | .notReady => -32002
  | .unserved _ => -32601
  | .unfitParams _ => -32602
  | .command (.unknown _) => -32602
  | .command (.raised _) => -32603

/-- The error in words. -/
def CallError.message : CallError → String
  | .unreadable => "Parse error"
  | .invalid => "Invalid request"
  | .notReady => "Server not initialized"
  | .unserved _ => "Method not found"
  | .unfitParams reason => reason
  | .command e => e.message

/-- The members that describe the error. -/
def CallError.members (e : CallError) : List (String × Json) :=
  let data := match e with
    | .unserved (some method) => [("data", Json.text method)]
    | _ => []
  [("code", .int e.code), ("message", .text e.message)] ++ data

/-! ### Messages -/

/-- The protocol version that every message names. -/
def version : Json := .text "2.0"

/-- The message that answers the call `id`. -/
def response (id : Json) : Except CallError Json → Json
  | .ok result => .object [("jsonrpc", version), ("result", result), ("id", id)]
  | .error e => .object [("jsonrpc", version), ("error", .object e.members), ("id", id)]

/-- The message by which the editor learns what the session has to say. -/
def notice (m : Message) : Json :=
  .object [("jsonrpc", version),
    ("method", .text (if m.shown then "window/showMessage" else "window/logMessage")),
    ("params", .object [("type", Json.nat m.level.number), ("message", .text m.text)])]

/-- A call. -/
structure Call where
  /-- The identity, if the call is to be answered. -/
  id : Option Json
  /-- What is to be done. -/
  method : String
  /-- What the method needs to know. -/
  params : Option Json
  deriving Repr

/-- Whether a value can be an identity: an integer of 64 bits, a text or `null`. -/
def isIdentity : Json → Bool
  | .int n => (Schema.readCode n).isOk
  | .text _ | .null => true
  | _ => false

/-- The shape of an error. -/
def errorShape : Shape :=
  let code : Shape := .integer (-0x8000000000000000) 0x7FFFFFFFFFFFFFFF "i64"
  .record "Error" (.ofList [("code", .always, code), ("message", .always, .text),
    ("data", .never, .anything)])

/-- Whether members make an answer: a result or an error, and an identity. -/
def isAnswer (members : List (String × Json)) : Bool :=
  (Json.lookup "id" members).isSome && ((Json.lookup "result" members).isSome ||
    (Json.lookup "error" members).any fun e => (errorShape.check true e).isOk)

/-- The call that is made of the values of the members, if they can make one. -/
def Call.ofValues (named method params id : Option Json) : Except CallError Call :=
  match named, method.getD (.text "") with
  | some (.text v), .text method =>
    if v = "2.0" && id.all isIdentity then .ok ⟨id, method, params⟩ else .error .invalid
  | _, _ => .error .invalid

/-- The call in a message, or why it is none.  An answer to a call of the session is no call and no
mistake.  A call can also be written as the sequence of its members. -/
def Call.ofMessage : Json → Except CallError (Option Call)
  | .object members => do
    let value (name : String) := Json.lookup name members
    if isAnswer members then
      let _ ← Call.ofValues (value "jsonrpc") none none (value "id")
      return none
    else
      let call ← Call.ofValues (value "jsonrpc") (value "method") (value "params") (value "id")
      return some call
  | .array items =>
    if 4 < items.length then .error .invalid
    else (Call.ofValues items[0]? items[1]? items[2]? items[3]?).map some
  | _ => .error .invalid

/-! ### Parameters -/

/-- The parameters of a call, if they have a shape. -/
def checked (s : Shape) : Option Json → Except CallError Json
  | none => .error (.unfitParams "Missing params field")
  | some j =>
    match s.check false j with
    | .ok () => .ok j
    | .error complaint => .error (.unfitParams complaint.message)

/-- The parameters of a call, read by a schema. -/
def paramsOf {α : Type} (s : Schema α) : Option Json → Except CallError α
  | none => .error (.unfitParams "Missing params field")
  | some j =>
    match s.decode j with
    | .ok a => .ok a
    | .error complaint => .error (.unfitParams complaint.message)

/-- A changed configuration. -/
def configurationParams : Schema Json :=
  .record "DidChangeConfigurationParams" (.cons "settings" .required .any .nil)
    (fun (settings, ()) => settings) (fun settings => (settings, ()))

/-- A document by its URI. -/
def identifier : Schema String :=
  .record "TextDocumentIdentifier" (.cons "uri" .required .text .nil)
    (fun (uri, ()) => uri) (fun uri => (uri, ()))

/-- An opened document: its URI and its text. -/
def openedParams : Schema (String × String) :=
  .record "DidOpenTextDocumentParams"
    (.cons "textDocument" .required
      (.record "TextDocumentItem"
        (.cons "uri" .required .text <| .cons "languageId" .required .text <|
          .cons "version" .required .code <| .cons "text" .required .text .nil)
        (fun (uri, _, _, text, ()) => (uri, text))
        (fun (uri, text) => (uri, "", 0, text, ()))) .nil)
    (fun (item, ()) => item) (fun item => (item, ()))

/-- A document by its URI, with its version. -/
def versionedIdentifier : Schema String :=
  .record "VersionedTextDocumentIdentifier"
    (.cons "uri" .required .text <| .cons "version" .required .code .nil)
    (fun (uri, _, ()) => uri) (fun uri => (uri, 0, ()))

/-- A changed document: its URI and its texts. -/
def changedParams : Schema (String × List String) :=
  .record "DidChangeTextDocumentParams"
    (.cons "textDocument" .required versionedIdentifier <|
      .cons "contentChanges" .required
        (.list (.record "TextDocumentContentChangeEvent" (.cons "text" .required .text .nil)
          (fun (text, ()) => text) (fun text => (text, ())))) .nil)
    (fun (uri, texts, ()) => (uri, texts)) (fun (uri, texts) => (uri, texts, ()))

/-- A saved document: its URI and possibly its text. -/
def savedParams : Schema (String × Option String) :=
  .record "DidSaveTextDocumentParams"
    (.cons "textDocument" .required identifier <|
      .cons "text" (.orElse none) (.optional .text) .nil)
    (fun (uri, text, ()) => (uri, text)) (fun (uri, text) => (uri, text, ()))

/-- A closed document. -/
def closedParams : Schema String :=
  .record "DidCloseTextDocumentParams" (.cons "textDocument" .required identifier .nil)
    (fun (uri, ()) => uri) (fun uri => (uri, ()))

/-- An event that is made from a URI and something else. -/
def eventOf {α : Type} (make : Uri → α → DocumentEvent) (uri : String) (a : α) :
    Option DocumentEvent :=
  ((Uri.parse uri).toOption).map (make · a)

/-- What a call says about a document. -/
def documentEvent? (c : Call) : Option DocumentEvent :=
  match c.method with
  | "textDocument/didOpen" => do
    let (uri, text) ← (paramsOf openedParams c.params).toOption
    eventOf .opened uri text
  | "textDocument/didChange" => do
    let (uri, texts) ← (paramsOf changedParams c.params).toOption
    eventOf .changed uri texts
  | "textDocument/didSave" => do
    let (uri, text) ← (paramsOf savedParams c.params).toOption
    eventOf .saved uri text
  | "textDocument/didClose" => do
    let uri ← (paramsOf closedParams c.params).toOption
    eventOf (fun uri () => .closed uri) uri ()
  | _ => none

/-! ### Methods -/

/-- The methods of the protocol that are never answered. -/
def silentMethods : List String :=
  ["initialized", "exit", "textDocument/didOpen", "textDocument/didChange",
    "textDocument/willSave", "textDocument/didSave", "textDocument/didClose",
    "workspace/didChangeConfiguration", "workspace/didChangeWorkspaceFolders",
    "workspace/didCreateFiles", "workspace/didRenameFiles", "workspace/didDeleteFiles",
    "workspace/didChangeWatchedFiles", "window/workDoneProgress/cancel", "$/cancelRequest"]

end Server

/-- A server: its session and how far the editor has come. -/
structure Server where
  /-- How far the editor has come. -/
  phase : Server.Phase
  /-- The session. -/
  session : Session

namespace Server

/-- A server before the first call. -/
def start (host : Host) (setup : Setup) : Traced Server := do
  return ⟨.fresh, ← Session.start host setup⟩

/-- Why a call that needs a session is refused in a phase. -/
def Phase.refusal? : Phase → Option CallError
  | .fresh => some .notReady
  | .ready => none
  | .shut | .done => some .invalid

/-- Sets the session up; a server whose call is refused stays fresh. -/
def answerOpening (host : Host) (s : Server) (params : Option Json) :
    Traced (Except CallError Json × Server) := do
  if s.phase ≠ .fresh then return (.error .invalid, s)
  else
    match checked Parameters.opening params with
    | .error e => return (.error e, s)
    | .ok j => do
      let session ← s.session.setUp host (Parameters.optionsOf j)
      return (.ok session.greeting, ⟨.ready, session⟩)

/-- Shuts the session down. -/
def answerShutdown (s : Server) (params : Option Json) : Except CallError Json × Server :=
  match s.phase.refusal? with
  | some e => (.error e, s)
  | none =>
    match params with
    | some j =>
      (.error (.unfitParams ("Unexpected params: " ++ j.compact)), { s with phase := .shut })
    | none => (.ok .null, ⟨.shut, s.session.shutdown⟩)

/-- Carries out a command. -/
def answerCommand (host : Host) (s : Server) (params : Option Json) :
    Traced (Except CallError Json × Server) := do
  match s.phase.refusal?, checked Parameters.command params with
  | some e, _ => return (.error e, s)
  | none, .error e => return (.error e, s)
  | none, .ok j => do
    let (r, session) ←
      s.session.command host (Parameters.commandOf j) (Parameters.argumentsOf j)
    return (r.mapError .command, { s with session })

/-- Answers a call that the protocol has but this server does not serve. -/
def answerUnserved (s : Server) (shape : Shape) (params : Option Json) : CallError :=
  match s.phase.refusal?, checked shape params with
  | some e, _ => e
  | none, .error e => e
  | none, .ok _ => .unserved none

/-- Answers a call that has an identity; there is no answer where the protocol has none. -/
def answer (host : Host) (s : Server) (c : Call) :
    Traced (Option (Except CallError Json) × Server) := do
  if c.method = "initialize" then
    let (r, s) ← s.answerOpening host c.params
    return (some r, s)
  else if c.method = "shutdown" then
    let (r, s) := s.answerShutdown c.params
    return (some r, s)
  else if c.method = "workspace/executeCommand" then
    let (r, s) ← s.answerCommand host c.params
    return (some r, s)
  else if silentMethods.contains c.method then
    return (none, if c.method = "exit" then { s with phase := .done } else s)
  else
    match Parameters.unserved? c.method with
    | some shape => return (some (.error (s.answerUnserved shape c.params)), s)
    | none =>
      if "$/".toList.isPrefixOf c.method.toList then return (none, s)
      else return (some (.error (.unserved (some c.method))), s)

/-- Takes a call without an identity.  What does not fit is ignored. -/
def take (host : Host) (s : Server) (c : Call) : Traced Server := do
  if c.method = "exit" then return { s with phase := .done }
  else if s.phase ≠ .ready then return s
  else if c.method = "shutdown" then return { s with phase := .shut }
  else if c.method = "initialized" then do
    Session.announce
    return s
  else if c.method = "workspace/didChangeConfiguration" then
    match paramsOf configurationParams c.params with
    | .error _ => return s
    | .ok settings => return { s with session := ← s.session.configure host settings }
  else
    match documentEvent? c with
    | none => return s
    | some e => return { s with session := ← s.session.document host e }

/-- Does what a message asks for; the value is the message that answers it, if there is one. -/
def receiveMessage (host : Host) (s : Server) (j : Json) : Traced (Option Json × Server) := do
  match Call.ofMessage j with
  | .error e => return (some (response .null (.error e)), s)
  | .ok none => return (none, s)
  | .ok (some c) =>
    match c.id with
    | none => return (none, ← s.take host c)
    | some id => do
      let (r, s) ← s.answer host c
      return (r.map (response id), s)

/-- Does what the content of a frame asks for; `none` stands for a frame that cannot be cut out. -/
def receive (host : Host) (s : Server) (content : Option Bytes) :
    Traced (Option Json × Server) := do
  match content.bind Utf8.decode? with
  | none => return (some (response .null (.error .unreadable)), s)
  | some text =>
    if text.isEmpty then return (none, s)
    else
      match Json.parse text with
      | .error _ => return (some (response .null (.error .unreadable)), s)
      | .ok j => s.receiveMessage host j

/-- The messages that go out because of something received: what the session has to say, then the
answer. -/
def outgoing (t : Traced (Option Json × Server)) : List Json :=
  t.messages.map notice ++ t.value.1.toList

end Server

end ToolRelay
