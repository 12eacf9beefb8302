import ToolRelay.Proofs.Json.Grammar
import ToolRelay.Proofs.Schema.Lossless
import ToolRelay.Proofs.Schema.Text
import ToolRelay.Text.Blank
import ToolRelay.Wire.Message

/-!
# Messages as they are written

Each kind of message has its text, and is what this text says.

* `Wire.isLine_compact` : a message is written as one line of JSON;
* `Wire.RunParams.faithful` and `Wire.RunReply.faithful` : what messages carry is written without
  loss;
* `Wire.RunParams.encode_eq` and `Wire.RunReply.encode_eq` : the members it is written as;
* `Wire.Request.lossless`, `Wire.Response.lossless` and the like : whatever is read from a message
  is written without loss;
* `Wire.Request.id_ne_null` : a request that is read has no identity that is `null`.
-/

namespace ToolRelay

open Json

namespace Wire

/-- A JSON value without a control character in it, so without a line break, and a line feed. -/
def IsLine (line : String) : Prop :=
  ∃ body, line = body ++ "\n" ∧ Grammar.NoControl body.toList ∧ Grammar.Value body.toList

theorem noControl_compact (j : Json) : Grammar.NoControl j.compact.toList := by
  rw [compact, String.toList_ofList]
  exact Grammar.noControl_compactChars j

theorem isLine_compact (j : Json) : IsLine (j.compact ++ "\n") := by
  refine ⟨j.compact, rfl, noControl_compact j, ?_⟩
  rw [compact, String.toList_ofList]
  exact Grammar.value_compactChars j

theorem isBlankText_compact (ms : List (String × Json)) :
    Text.isBlankText (Json.object ms).compact = false := by
  have hbrace : Text.isBlank '{' = false := by decide
  rw [Text.isBlankText, compact, String.toList_ofList, compactChars, List.all_cons, hbrace,
    Bool.false_and]

/-- What is written without a control character has none among its octets. -/
theorem not_mem_encode {s : String} (h : Grammar.NoControl s.toList) {b : UInt8}
    (hb : b.toNat < 0x20) : b ∉ Utf8.encode s := by
  intro hm
  obtain ⟨xs, ys, hs⟩ := List.append_of_mem hm
  obtain ⟨before, after, rfl, -⟩ := Utf8.encode_eq_append_cons (by omega) hs
  -- an octet below `0x80` is a character of its own, and this one would be a control character
  have hc : Char.ofNat b.toNat ∈
      (before ++ String.singleton (Char.ofNat b.toNat) ++ after).toList := by
    simp
  have := h _ hc
  rw [Utf8.toNat_ofNat_of_valid (.inl (by omega))] at this
  omega

theorem option_text_ne_null {x : Option String} :
    ∀ s, x = some s → Schema.text.Faithful s ∧ Schema.text.encode s ≠ .ok .null :=
  fun _ _ => ⟨trivial, fun h => nomatch h⟩

theorem plain_option {d : Nat} (x : Option String) : Plain (d + 1) (.option .text x) := by
  cases x with
  | none => exact .null
  | some s => exact .text s

theorem encode_list_text (ss : List String) :
    (Schema.list .text).encode ss = .ok (.texts ss) := by
  have h : ss.mapM Schema.text.encode = .ok (ss.map .text) := List.mapM_pure
  rw [Schema.encode, h]
  rfl

theorem encode_optional_text (x : Option String) :
    (Schema.optional .text).encode x = .ok (.option .text x) := by
  cases x <;> rfl

/-! ### Running a module -/

theorem RunParams.faithful (p : RunParams) : RunParams.schema.Faithful p :=
  ⟨rfl, by decide, trivial, trivial, fun _ _ => trivial, trivial, trivial, trivial, trivial,
    trivial, option_text_ne_null, trivial, option_text_ne_null, trivial, trivial⟩

theorem RunParams.encode_eq {p : RunParams} {cwd : String} (h : p.cwd.toString? = some cwd) :
    RunParams.schema.encode p = .ok (.object [("module", .text p.module), ("argv", .texts p.argv),
      ("useStdin", .bool p.useStdin), ("cwd", .text cwd), ("source", .option .text p.source),
      ("workspace", .option .text p.workspace)]) := by
  have hcwd : Schema.path.encode p.cwd = .ok (.text cwd) := by rw [Schema.encode, h]
  rw [RunParams.schema, Schema.encode]
  rw [Fields.encode_cons (by simp) rfl <| Fields.encode_cons (by simp) (encode_list_text p.argv) <|
    Fields.encode_cons (by simp) rfl <| Fields.encode_cons (by simp) hcwd <|
    Fields.encode_cons (by simp) (encode_optional_text p.source) <|
    Fields.encode_cons (by simp) (encode_optional_text p.workspace) rfl]
  rfl

/-- The parameters of a run can be written exactly if the working directory is UTF-8. -/
theorem RunParams.encode_of_none {p : RunParams} (h : p.cwd.toString? = none) :
    RunParams.schema.encode p = .error .pathNotUtf8 := by
  have hcwd : Schema.path.encode p.cwd = .error .pathNotUtf8 := by rw [Schema.encode, h]
  rw [RunParams.schema, Schema.encode]
  simp only [Fields.encode, encode_list_text, hcwd]
  rfl

theorem RunParams.plain (p : RunParams) (cwd : String) (d : Nat) :
    Plain (d + 3) (.object [("module", .text p.module), ("argv", .texts p.argv),
      ("useStdin", .bool p.useStdin), ("cwd", .text cwd), ("source", .option .text p.source),
      ("workspace", .option .text p.workspace)]) := by
  refine .object (by simp) ?_
  simp only [List.forall_mem_cons]
  refine ⟨.text _, .array ?_, .bool _, .text _, plain_option _, plain_option _, by simp⟩
  intro j hj
  obtain ⟨s, -, rfl⟩ := List.mem_map.1 hj
  exact .text s

theorem RunParams.lossless : RunParams.schema.Lossless :=
  ⟨fun _ => rfl, by decide, trivial, nofun, fun _ _ => trivial, trivial, nofun, fun _ _ => trivial,
    trivial, nofun, fun _ _ => trivial, trivial, nofun, fun _ _ => trivial, trivial,
    Schema.faithful_absent, fun _ _ => trivial, trivial, Schema.faithful_absent, fun _ _ => trivial,
    trivial⟩

theorem RunReply.faithful (r : RunReply) : RunReply.schema.Faithful r :=
  ⟨rfl, by decide, trivial, trivial, trivial, trivial, option_text_ne_null, trivial, trivial⟩

theorem RunReply.encode_eq (r : RunReply) :
    RunReply.schema.encode r = .ok (.object [("stdout", .text r.stdout),
      ("stderr", .text r.stderr), ("exception", .option .text r.exception)]) := by
  rw [RunReply.schema, Schema.encode]
  rw [Fields.encode_cons (by simp) rfl <| Fields.encode_cons (by simp) rfl <|
    Fields.encode_cons (by simp) (encode_optional_text r.exception) rfl]
  rfl

theorem RunReply.plain (r : RunReply) (d : Nat) :
    Plain (d + 2) (.object [("stdout", .text r.stdout), ("stderr", .text r.stderr),
      ("exception", .option .text r.exception)]) := by
  refine .object (by simp) ?_
  simp only [List.forall_mem_cons]
  exact ⟨.text _, .text _, plain_option _, by simp⟩

theorem RunReply.lossless : RunReply.schema.Lossless :=
  ⟨fun _ => rfl, by decide, trivial, fun _ _ => trivial, fun _ _ => trivial, trivial,
    fun _ _ => trivial, fun _ _ => trivial, trivial, Schema.faithful_absent, fun _ _ => trivial,
    trivial⟩

/-! ### Requests and responses -/

/-- A request as JSON. -/
def requestJson (n : Nat) (method : String) (params : Json) : Json :=
  .object [("jsonrpc", .text version), ("id", .int n), ("method", .text method),
    ("params", params)]

/-- The response with a result as JSON. -/
def successJson (id result : Json) : Json :=
  .object [("jsonrpc", .text version), ("id", id), ("result", result)]

theorem Request.lossless : Request.schema.Lossless :=
  ⟨fun _ => rfl, by decide, trivial, nofun, fun _ _ => trivial, trivial, Schema.faithful_absent,
    fun _ => Presence.restores_none, trivial, nofun, fun _ _ => trivial, trivial,
    fun _ _ => trivial, fun _ _ => trivial, trivial⟩

theorem RpcError.lossless : RpcError.schema.Lossless :=
  ⟨fun _ => rfl, by decide, trivial, nofun, fun _ _ => trivial, trivial, nofun, fun _ _ => trivial,
    trivial⟩

theorem Response.lossless : Response.schema.Lossless :=
  ⟨fun _ => rfl, by decide, trivial, nofun, fun _ _ => trivial, trivial, fun _ _ => trivial,
    fun _ _ => trivial, trivial, Schema.faithful_absent, fun _ => Presence.restores_none,
    RpcError.lossless, Schema.faithful_absent, fun _ => Presence.restores_none, trivial⟩

/-- An identity that is written as `null` is read as none. -/
theorem Request.id_ne_null {text : String} {r : Request} (h : Request.schema.parse text = .ok r) :
    r.id ≠ some .null := fun hid =>
  have hf := Request.schema.faithful_of_parse lossless h
  (hf.2.2.2.2.1 .null hid).2 rfl

/-- A result that is written as `null` is read as none. -/
theorem Response.result_ne_null {text : String} {r : Response}
    (h : Response.schema.parse text = .ok r) : r.result ≠ some .null := by
  intro hr
  have hf := Response.schema.faithful_of_parse lossless h
  exact (hf.2.2.2.2.2.2.1 .null hr).2 rfl

theorem parse_request {n : Nat} {method : String} {params : Json} (hn : n ≤ Reader.maxInt)
    (hp : Plain 127 params) :
    Request.schema.parse ((requestJson n method params).compact ++ "\n") =
      .ok (.make (some (.int n)) method params) := by
  refine Request.schema.parse_of_decode (t := ['\n']) (.object (by simp) ?_) rfl
    (List.forall_mem_singleton.2 rfl)
  simp only [List.forall_mem_cons]
  exact ⟨.text _, .int (by omega) (by omega), .text _, hp, by simp⟩

theorem parse_success {id : Json} {ms : List (String × Json)} (hid : Plain 127 id)
    (hp : Plain 127 (.object ms)) {t : List Char} (ht : ∀ c ∈ t, Reader.isBlank c = true) :
    Response.schema.parse ((successJson id (.object ms)).compact ++ String.ofList t) =
      .ok (.success id (.object ms)) := by
  refine Response.schema.parse_of_decode (.object (by simp) ?_) rfl ht
  simp only [List.forall_mem_cons]
  exact ⟨.text _, hid, hp, by simp⟩

/-- A response can always be written. -/
theorem exists_encodeLine_response (r : Response) :
    ∃ line, encodeLine Response.schema r = .ok line ∧ IsLine line := by
  obtain ⟨j, hj⟩ : ∃ j, Response.schema.encode r = .ok j := by
    obtain ⟨_, id, _ | result, _ | e⟩ := r
    · exact ⟨_, rfl⟩
    · exact ⟨_, rfl⟩
    · cases result <;> exact ⟨_, rfl⟩
    · cases result <;> exact ⟨_, rfl⟩
  refine ⟨j.compact ++ "\n", ?_, isLine_compact j⟩
  rw [encodeLine, hj]
  rfl

end Wire

end ToolRelay
