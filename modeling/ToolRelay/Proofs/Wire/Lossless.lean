import ToolRelay.Proofs.Remote.Conversation
import ToolRelay.Proofs.Schema.Writing

/-!
# The wire format loses nothing

Messages are written one after another, each on a line of its own, and whoever reads them cuts what
has arrived at the line feeds.  A `Message` is what one side wants to say: the parameters of a run
and the reply to it are messages inside of messages, which are written as JSON values first.

* `Wire.exists_encodeLine` : a value that is written as a plain one is written on a line, and read
  back from it;
* `Wire.Message.exists_line` : so is every message;
* `Wire.messages_lossless` : whatever messages are written, the lines can be told apart and each
  says its message; and what has been read from any text whose numbers are integers can be written
  and read again.
-/

namespace ToolRelay

open Json Runner

namespace Wire

variable {α : Type} {d : Nat}

/-- **A value on a line of its own**: what is written as a plain value without loss is read back
from its line. -/
theorem exists_encodeLine {s : Schema α} {a : α} (hf : s.Faithful a)
    (hw : s.Writes Reader.maxDepth a) :
    ∃ line, encodeLine s a = .ok line ∧ IsLine line ∧ s.parse line = .ok a := by
  obtain ⟨j, hj, hp⟩ := hw
  have hparse : s.parse (j.compact ++ "\n") = .ok a :=
    s.parse_of_decode (t := ['\n']) hp (s.decode_encode hf hj) (List.forall_mem_singleton.2 rfl)
  exact ⟨j.compact ++ "\n", by rw [encodeLine, hj]; rfl, isLine_compact j, hparse⟩

/-! ### What is written without loss -/

theorem writes_text {s : String} : Schema.text.Writes (d + 1) s := ⟨.text s, rfl, .text s⟩

theorem writes_any {j : Json} (h : Plain d j) : Schema.any.Writes d j := ⟨j, rfl, h⟩

theorem Request.faithful {r : Request} (h : r.id ≠ some .null) : Request.schema.Faithful r := by
  have hid : (Schema.optional .any).Faithful r.id := by
    rintro id hid
    refine ⟨trivial, fun hnull => h ?_⟩
    cases hnull
    exact hid
  exact ⟨rfl, by decide, trivial, trivial, hid, Presence.restores_none hid, trivial, trivial,
    trivial, trivial, trivial⟩

theorem Request.writes {r : Request} (hid : ∀ id, r.id = some id → Plain (d + 1) id)
    (hp : Plain (d + 1) r.params) : Request.schema.Writes (d + 2) r := by
  have hoptional : (Schema.optional .any).Writes (d + 1) r.id := by
    cases h : r.id with
    | none => exact Schema.writes_none
    | some id => exact Schema.writes_some (writes_any (hid id h))
  exact Schema.writes_record (by decide) <| Fields.writes_cons writes_text <|
    Fields.writes_cons hoptional <| Fields.writes_cons writes_text <|
    Fields.writes_cons (writes_any hp) Fields.writes_nil

/-- A refusal whose code is an integer of 64 bits. -/
def RpcError.IsWritable (e : RpcError) : Prop :=
  -0x8000000000000000 ≤ e.code ∧ e.code ≤ 0x7FFFFFFFFFFFFFFF

theorem RpcError.IsWritable.faithful {e : RpcError} (h : e.IsWritable) :
    RpcError.schema.Faithful e :=
  ⟨rfl, by decide, h, trivial, trivial, trivial, trivial⟩

theorem RpcError.IsWritable.writes {e : RpcError} (h : e.IsWritable) :
    RpcError.schema.Writes (d + 2) e := by
  have hcode : Schema.code.Writes (d + 1) e.code := by
    obtain ⟨lo, hi⟩ := h
    exact ⟨.int e.code, rfl, .int lo (by unfold Reader.maxInt; omega)⟩
  exact Schema.writes_record (by decide) <| Fields.writes_cons hcode <|
    Fields.writes_cons writes_text Fields.writes_nil

theorem Response.faithful_success (id : Json) {result : Json} (h : result ≠ .null) :
    Response.schema.Faithful (.success id result) := by
  have hresult : (Schema.optional .any).Faithful (some result) := by
    rintro _ ⟨⟩
    refine ⟨trivial, fun hnull => h ?_⟩
    cases hnull
    rfl
  exact ⟨rfl, by decide, trivial, trivial, trivial, trivial, hresult,
    Presence.restores_none hresult, nofun, Presence.restores_none nofun, trivial⟩

theorem Response.faithful_failure (id : Json) {e : RpcError} (h : e.IsWritable) :
    Response.schema.Faithful (.failure id e) := by
  have herror : (Schema.optional RpcError.schema).Faithful (some e) := by
    rintro _ ⟨⟩
    refine ⟨h.faithful, fun hnull => ?_⟩
    obtain ⟨_, -, hobject⟩ := exists_of_map_eq_ok hnull
    contradiction
  exact ⟨rfl, by decide, trivial, trivial, trivial, trivial, nofun, Presence.restores_none nofun,
    herror, Presence.restores_none herror, trivial⟩

theorem Response.writes {r : Response} (hid : Plain (d + 2) r.id)
    (hr : ∀ result, r.result = some result → Plain (d + 2) result)
    (he : ∀ e, r.error = some e → e.IsWritable) : Response.schema.Writes (d + 3) r := by
  have hresult : (Schema.optional .any).Writes (d + 2) r.result := by
    cases h : r.result with
    | none => exact Schema.writes_none
    | some result => exact Schema.writes_some (writes_any (hr result h))
  have herror : (Schema.optional RpcError.schema).Writes (d + 2) r.error := by
    cases h : r.error with
    | none => exact Schema.writes_none
    | some e => exact Schema.writes_some (he e h).writes
  exact Schema.writes_record (by decide) <| Fields.writes_cons writes_text <|
    Fields.writes_cons (writes_any hid) <| Fields.writes_cons hresult <|
    Fields.writes_cons herror Fields.writes_nil

/-! ### Messages -/

/-- What one side says to the other. -/
inductive Message where
  /-- A module is to be run. -/
  | run (id : Option Int) (params : RunParams)
  /-- The runner is to stop. -/
  | exit (id : Option Int)
  /-- A module has been run. -/
  | success (id : Json) (reply : RunReply)
  /-- A request is refused. -/
  | failure (id : Json) (e : RpcError)

namespace Message

/-- An identity that is an integer, if there is one. -/
def IsIdentity (id : Option Int) : Prop :=
  ∀ n ∈ id, -0x8000000000000000 ≤ n ∧ n ≤ Reader.maxInt

/-- A message with an integer identity and a working directory that is text, or an answer to any
identity that can be read. -/
def IsBuilt : Message → Prop
  | run id params => IsIdentity id ∧ Utf8.WellFormed params.cwd.bytes
  | exit id => IsIdentity id
  | success id _ => Plain 127 id
  | failure id e => Plain 127 id ∧ e.IsWritable

/-- The line that a message is written on. -/
def line : Message → Except Unwritable String
  | run id params => do
    encodeLine Request.schema (.make (id.map .int) methodRun (← RunParams.schema.encode params))
  | exit id => encodeLine Request.schema (.make (id.map .int) methodExit .null)
  | success id reply => do
    encodeLine Response.schema (.success id (← RunReply.schema.encode reply))
  | failure id e => encodeLine Response.schema (.failure id e)

/-- The line is read as exactly this message, and what the message carries is read from it then. -/
def IsSaidBy (line : String) : Message → Prop
  | run id params => ∃ j, RunParams.schema.encode params = .ok j ∧
      Request.schema.parse line = .ok (.make (id.map .int) methodRun j) ∧
      RunParams.schema.decode j = .ok params
  | exit id => Request.schema.parse line = .ok (.make (id.map .int) methodExit .null)
  | success id reply => ∃ j, RunReply.schema.encode reply = .ok j ∧
      Response.schema.parse line = .ok (.success id j) ∧ RunReply.schema.decode j = .ok reply
  | failure id e => Response.schema.parse line = .ok (.failure id e)

theorem IsIdentity.plain {id : Option Int} (h : IsIdentity id) {j : Json}
    (hj : id.map .int = some j) : Plain (d + 1) j := by
  obtain ⟨n, hn, rfl⟩ := Option.map_eq_some_iff.1 hj
  exact .int (h n hn).1 (h n hn).2

theorem exists_request_line {id : Option Int} (hid : IsIdentity id) (method : String)
    {params : Json} (hp : Plain 127 params) :
    ∃ line, encodeLine Request.schema (.make (id.map .int) method params) = .ok line ∧
      IsLine line ∧ Request.schema.parse line = .ok (.make (id.map .int) method params) := by
  refine exists_encodeLine (Request.faithful ?_) (Request.writes (fun j hj => hid.plain hj) hp)
  cases id <;> nofun

/-- **Every message is said by its line.** -/
theorem exists_line {m : Message} (h : m.IsBuilt) :
    ∃ line, m.line = .ok line ∧ IsLine line ∧ m.IsSaidBy line := by
  cases m with
  | run id params =>
    obtain ⟨hid, cwd, hcwd⟩ := h
    have hencode := RunParams.encode_eq (Utf8.decode?_eq_some_iff.2 hcwd)
    obtain ⟨line, hline, hl, hparse⟩ :=
      exists_request_line hid methodRun (RunParams.plain params cwd 124)
    refine ⟨line, ?_, hl, _, hencode, hparse,
      RunParams.schema.decode_encode params.faithful hencode⟩
    rw [Message.line, hencode]
    exact hline
  | exit id => exact exists_request_line h methodExit .null
  | success id reply =>
    obtain ⟨ms, hencode, hp⟩ : ∃ ms, RunReply.schema.encode reply = .ok (.object ms) ∧
        Plain 127 (.object ms) := ⟨_, reply.encode_eq, reply.plain 125⟩
    have hresult : ∀ result, some (Json.object ms) = some result → Plain 127 result := by
      rintro _ ⟨⟩
      exact hp
    obtain ⟨line, hline, hl, hparse⟩ :=
      exists_encodeLine (Response.faithful_success id (show Json.object ms ≠ .null from nofun))
        (Response.writes h hresult nofun)
    refine ⟨line, ?_, hl, _, hencode, hparse, RunReply.schema.decode_encode reply.faithful hencode⟩
    rw [Message.line, hencode]
    exact hline
  | failure id e =>
    obtain ⟨hid, he⟩ := h
    refine exists_encodeLine (Response.faithful_failure id he) (Response.writes hid nofun ?_)
    rintro _ ⟨⟩
    exact he

end Message

/-! ### Cutting lines -/

/-- Both sides cut lines that have been written one after another into these lines. -/
theorem cut_lines {lines : List String} (h : ∀ line ∈ lines, IsLine line) :
    inputLines (Utf8.encode (String.join lines)) = lines.map Utf8.encode ∧
    ∀ output finish, output.flatMap (·.2) = Utf8.encode (String.join lines) →
      (Remote.Conversation.timedLines output finish).map (·.2 ++ [newline]) =
        lines.map Utf8.encode := by
  obtain ⟨bodies, rfl, hbodies⟩ := Remote.Conversation.exists_bodies h
  have hn : ∀ body ∈ bodies.map Utf8.encode, newline ∉ body := by
    intro body hb
    obtain ⟨s, hs, rfl⟩ := List.mem_map.1 hb
    exact not_mem_encode (hbodies s hs) (by decide)
  have hlines : (bodies.map (· ++ "\n")).map Utf8.encode =
      (bodies.map Utf8.encode).map (· ++ [newline]) := by
    simp only [List.map_map]
    exact List.map_congr_left fun body _ => Utf8.encode_append body "\n"
  refine ⟨?_, fun output finish ho => ?_⟩
  · rw [Remote.Conversation.encode_join, inputLines_flatMap hn, hlines]
  · rw [hlines, ← (Remote.Conversation.timedLines_eq hbodies ho finish).1, List.map_map]
    rfl

/-! ### What has been read -/

/-- Whatever is read from the text by the schema can be written on a line, from which it is read
again. -/
def Rereads (s : Schema α) (text : String) : Prop :=
  ∀ a, s.parse text = .ok a → ∃ line, encodeLine s a = .ok line ∧ s.parse line = .ok a

theorem rereads_of_integral {s : Schema α} (hl : s.Lossless) (hc : s.Complete) {text : String}
    (h : Integral text) : Rereads s text := by
  intro a ha
  obtain ⟨line, hline, -, hparse⟩ :=
    exists_encodeLine (s.faithful_of_parse hl ha) (s.writes_of_parse hl hc h ha)
  exact ⟨line, hline, hparse⟩

theorem Request.complete : Request.schema.Complete := by
  refine ⟨nofun, trivial, Schema.writes_absent, trivial, nofun, trivial, ?_, trivial, trivial⟩
  rintro _ ⟨⟩ d
  exact writes_any .null

theorem RpcError.complete : RpcError.schema.Complete := ⟨nofun, trivial, nofun, trivial, trivial⟩

theorem Response.complete : Response.schema.Complete := by
  refine ⟨nofun, trivial, ?_, trivial, Schema.writes_absent, trivial, Schema.writes_absent,
    RpcError.complete, trivial⟩
  rintro _ ⟨⟩ d
  exact writes_any .null

theorem RunParams.complete : RunParams.schema.Complete :=
  ⟨nofun, trivial, nofun, trivial, nofun, trivial, nofun, trivial, Schema.writes_absent, trivial,
    Schema.writes_absent, trivial, trivial⟩

theorem RunReply.complete : RunReply.schema.Complete := by
  have htext : ∀ a, some "" = some a → ∀ d, Schema.text.Writes (d + 1) a := by
    rintro _ ⟨⟩ d
    exact writes_text
  exact ⟨htext, trivial, htext, trivial, Schema.writes_absent, trivial, trivial⟩

/-! ### The wire format -/

/-- Every message of a list is said by a line of its own. -/
theorem Message.exists_lines {messages : List Message} (h : ∀ m ∈ messages, m.IsBuilt) :
    ∃ lines : List String, (∀ line ∈ lines, IsLine line) ∧
      List.Forall₂ (fun m line => m.line = .ok line ∧ m.IsSaidBy line) messages lines := by
  induction messages with
  | nil => exact ⟨[], nofun, .nil⟩
  | cons m messages ih =>
    obtain ⟨hm, hmessages⟩ := List.forall_mem_cons.1 h
    obtain ⟨line, hline, hl, hsaid⟩ := Message.exists_line hm
    obtain ⟨lines, hls, hsaids⟩ := ih hmessages
    exact ⟨line :: lines, List.forall_mem_cons.2 ⟨hl, hls⟩, .cons ⟨hline, hsaid⟩ hsaids⟩

/-- **The wire format loses nothing.**  Whatever messages are built, each is written on a line that
says it: the only line break is its last character, so that both sides cut the lines written one
after another into exactly these lines.  And whatever kind of message a text says, if all its
numbers are integers, what has been read from it can be written, and is read again from what is
written. -/
theorem messages_lossless {messages : List Message} (hm : ∀ m ∈ messages, m.IsBuilt)
    {text : String} (ht : Integral text) :
    (∃ lines : List String,
      List.Forall₂ (fun m line => m.line = .ok line ∧ m.IsSaidBy line) messages lines ∧
      (∀ line ∈ lines, ∃ body, line = body ++ "\n" ∧ '\n' ∉ body.toList) ∧
      inputLines (Utf8.encode (String.join lines)) = lines.map Utf8.encode ∧
      ∀ output finish, output.flatMap (·.2) = Utf8.encode (String.join lines) →
        (Remote.Conversation.timedLines output finish).map (·.2 ++ [newline]) =
          lines.map Utf8.encode) ∧
    Rereads Request.schema text ∧ Rereads Response.schema text ∧ Rereads RpcError.schema text ∧
      Rereads RunParams.schema text ∧ Rereads RunReply.schema text := by
  obtain ⟨lines, hlines, hsaid⟩ := Message.exists_lines hm
  refine ⟨⟨lines, hsaid, fun line hl => ?_, cut_lines hlines⟩,
    rereads_of_integral Request.lossless Request.complete ht,
    rereads_of_integral Response.lossless Response.complete ht,
    rereads_of_integral RpcError.lossless RpcError.complete ht,
    rereads_of_integral RunParams.lossless RunParams.complete ht,
    rereads_of_integral RunReply.lossless RunReply.complete ht⟩
  obtain ⟨body, hbody, hcontrol, -⟩ := hlines line hl
  exact ⟨body, hbody, fun hmem => absurd (hcontrol _ hmem) (by decide)⟩

/-- A module is run and answers, another one does not exist, and the runner is stopped. -/
def exchange : List Message :=
  [.run (some 7) ⟨"echo", ["-n", "a b"], true, Path.ofString "/w", some "x\n\"y\"\n", none⟩,
    .success (.int 7) ⟨"é\u2028", "", some "Error:\n"⟩,
    .failure .null (.unknownMethod "no \\ such\r\n"),
    .exit none]

/-- A refusal as somebody else may write it. -/
def refusal : String := "\x7b \"message\": \"\\u00e9 0.5\", \"code\": -32601 \x7d"

theorem messages_lossless_exchange :
    (∃ lines : List String,
      List.Forall₂ (fun m line => m.line = .ok line ∧ m.IsSaidBy line) exchange lines) ∧
    ∃ line, encodeLine RpcError.schema ⟨-32601, "é 0.5"⟩ = .ok line ∧
      RpcError.schema.parse line = .ok ⟨-32601, "é 0.5"⟩ := by
  have hbuilt : ∀ m ∈ exchange, m.IsBuilt := by
    simp only [exchange, List.forall_mem_cons]
    refine ⟨⟨?_, Utf8.wellFormed_encode "/w"⟩, .int (by decide) (by decide),
      ⟨.null, by decide, by decide⟩, nofun, nofun⟩
    rintro _ ⟨⟩
    decide
  have hnumerals : numerals refusal = ["-32601".toList] := by decide +kernel
  have hintegral : Integral refusal := by
    rw [Integral, hnumerals]
    exact List.forall_mem_singleton.2 ⟨-32601, by decide, by decide, by decide +kernel⟩
  obtain ⟨⟨lines, hlines, -⟩, -, -, hrereads, -⟩ := messages_lossless hbuilt hintegral
  have hparse : RpcError.schema.parse refusal = .ok ⟨-32601, "é 0.5"⟩ := by decide +kernel
  exact ⟨⟨lines, hlines⟩, hrereads _ hparse⟩

end Wire

end ToolRelay
