import Mathlib.Data.List.TakeWhile
import ToolRelay.Proofs.Runner.Lines
import ToolRelay.Proofs.Wire.Message

/-!
# What a runner answers

A line asks for something if it spells a request (`Runner.Asks`).  `Runner.Answers` says what may be
written in answer to one line: nothing, or one response on a line of its own.

* `Runner.respond_backend` : a line leaves the backend as it was, whatever the module does to the
  search path, so no line has an influence on the answer to another.
* `Runner.serveLines_eq` : a runner answers line by line until it is asked to stop.
* `Runner.serve_answers` : **every line before the first request to stop is answered exactly once
  and in order**, by what a runner would write for this line alone.
-/

namespace ToolRelay

namespace InProcess

/-- The search path is put back. -/
theorem invoke_backend (b : InProcess) (i : Invocation) : (b.invoke i).2 = b := by
  unfold invoke conduct
  split
  · rfl
  · split
    · rfl
    · rw [Traced.value_bind]
      dsimp only
      split <;> rfl

end InProcess

namespace Runner

/-! ### The backend -/

theorem run_backend (b : InProcess) (p : Wire.RunParams) : (run b p).value.2 = b := by
  have hb := b.invoke_backend (invocation p)
  rw [InProcess.invoke] at hb
  rw [run, Traced.value_bind]
  rcases hc : (b.conduct (invocation p)).value with ⟨f | r, b'⟩ <;> rw [hc] at hb <;> exact hb

theorem answer_backend (b : InProcess) (r : Wire.Request) : (answer b r).value.2 = b := by
  unfold answer
  split_ifs
  · rfl
  · rfl
  · split
    · rfl
    · exact run_backend b _

theorem respond_backend (b : InProcess) (line : Bytes) : (respond b line).value.2 = b := by
  unfold respond
  split
  · rfl
  · rfl
  · rfl
  · rfl
  · split
    · rfl
    · exact answer_backend b _

/-! ### Requests to run a module -/

/-- What a runner replies when a module has run. -/
def replyOf : Except Failure InvocationResult → Wire.RunReply
  | .ok r => ⟨r.stdout, r.stderr, none⟩
  | .error f => ⟨"", "", some f.report⟩

theorem run_eq (b : InProcess) (p : Wire.RunParams) :
    (run b p).value.1 = replyOf (b.invoke (invocation p)).1 := by
  rw [run, Traced.value_bind, InProcess.invoke]
  rcases (b.conduct (invocation p)).value with ⟨f | r, b'⟩ <;> rfl

theorem answer_of_decode (b : InProcess) {r : Wire.Request} {p : Wire.RunParams}
    (hv : r.jsonrpc = Wire.version) (hm : r.method = Wire.methodRun)
    (hp : Wire.RunParams.schema.decode r.params = .ok p) :
    (answer b r).value.1 = .ok (replyOf (b.invoke (invocation p)).1) := by
  rw [answer, if_neg (not_not_intro hv), if_neg (not_not_intro hm), hp, ← run_eq]
  rfl

/-! ### Line by line -/

/-- What a runner writes for a line. -/
def output (b : InProcess) (line : Bytes) : List String :=
  match (respond b line).value.1 with
  | .response r => responseLine r
  | _ => []

/-- Whether a runner stops at a line. -/
def stops (line : Bytes) : Bool := (Line.ofBytes line).isStop

theorem respond_eq_stop_iff (b : InProcess) (line : Bytes) :
    (respond b line).value.1 = .stop ↔ stops line = true := by
  unfold respond stops
  cases Line.ofBytes line with
  | foreign flaw => exact ⟨nofun, nofun⟩
  | blank => exact ⟨nofun, nofun⟩
  | unreadable reason => exact ⟨nofun, nofun⟩
  | stop => exact ⟨fun _ => rfl, fun _ => rfl⟩
  | request r =>
    cases h : r.id with
    | none => simp [h, Line.isStop]
    | some id => simp [h, Line.isStop]

theorem serveLines_cons (b : InProcess) (line : Bytes) (rest : List Bytes) :
    (serveLines b (line :: rest)).value =
      if stops line then [] else output b line ++ (serveLines b rest).value := by
  have hb := respond_backend b line
  have hstop := respond_eq_stop_iff b line
  -- the line is answered by `b` and leaves `b`, so `b` answers the other lines
  rw [serveLines, Traced.value_bind, output]
  revert hb hstop
  rcases (respond b line).value with ⟨step, b'⟩
  rintro rfl hstop
  cases step with
  | stop => rw [if_pos (hstop.1 rfl)]; rfl
  | silent =>
    rw [if_neg fun h => nomatch hstop.2 h]
    rfl
  | response r =>
    rw [if_neg fun h => nomatch hstop.2 h]
    rfl

/-- **A runner answers line by line** until it is asked to stop; every answer is given by the
backend as it was at the beginning. -/
theorem serveLines_eq (b : InProcess) (lines : List Bytes) :
    (serveLines b lines).value = (lines.takeWhile (!stops ·)).flatMap (output b) := by
  induction lines with
  | nil => rfl
  | cons line rest ih =>
    rw [serveLines_cons, ih]
    cases h : stops line <;> simp [h]

/-- No line asks a runner to stop. -/
def Open (input : Bytes) : Prop := ∀ line ∈ inputLines input, stops line = false

theorem serve_of_open (b : InProcess) {input : Bytes} (h : Open input) :
    (serve b input).value = (inputLines input).flatMap (output b) := by
  rw [serve, serveLines_eq, List.takeWhile_eq_self_iff.2 fun line hl => by simp [h line hl]]

/-! ### What a line asks for -/

/-- The line spells the request `r`. -/
def Asks (line : Bytes) (r : Wire.Request) : Prop :=
  ∃ text, Utf8.encode text = line ∧ Wire.Request.schema.parse text = .ok r

theorem Asks.unique {line : Bytes} {r r' : Wire.Request} (h : Asks line r) (h' : Asks line r') :
    r = r' := by
  obtain ⟨text, rfl, hp⟩ := h
  obtain ⟨text', he, hp'⟩ := h'
  rw [Utf8.encode_injective he, hp] at hp'
  exact Except.ok.inj hp'

/-- A blank text is no request. -/
theorem isBlankText_eq_false {text : String} {r : Wire.Request}
    (h : Wire.Request.schema.parse text = .ok r) : Text.isBlankText text = false := by
  by_contra hb
  have hs : ∀ c ∈ text.toList, Text.isBlank c = true := by
    simpa [Text.isBlankText] using hb
  exact (Schema.record_fails_of_blank hs).run r h

theorem ofBytes_encode (text : String) :
    Line.ofBytes (Utf8.encode text) =
      if Text.isBlankText text then .blank
      else match Wire.Request.schema.parse text with
        | .error fault => .unreadable (fault.message text)
        | .ok r => if r.method = Wire.methodExit then .stop else .request r := by
  have hflaw := Utf8.firstFlaw?_eq_none_iff.2 ⟨text, rfl⟩
  by_cases hb : Text.isBlankText text = true
  · simp only [Line.ofBytes, hflaw, Utf8.lossy_encode, if_pos hb]
  · cases hp : Wire.Request.schema.parse text with
    | error fault => simp only [Line.ofBytes, hflaw, Utf8.lossy_encode, if_neg hb, hp]
    | ok r => simp only [Line.ofBytes, hflaw, Utf8.lossy_encode, if_neg hb, hp]

theorem ofBytes_of_not_utf8 {line : Bytes} (h : ¬∃ text, Utf8.encode text = line) :
    ∃ flaw, Line.ofBytes line = .foreign flaw := by
  cases hf : Utf8.firstFlaw? line with
  | none => exact absurd (Utf8.firstFlaw?_eq_none_iff.1 hf) h
  | some flaw => exact ⟨flaw, by rw [Line.ofBytes, hf]⟩

theorem ofBytes_of_asks {line : Bytes} {r : Wire.Request} (h : Asks line r) :
    Line.ofBytes line = if r.method = Wire.methodExit then .stop else .request r := by
  obtain ⟨text, rfl, hp⟩ := h
  rw [ofBytes_encode, isBlankText_eq_false hp, hp]
  rfl

theorem stops_iff {line : Bytes} :
    stops line = true ↔ ∃ r, Asks line r ∧ r.method = Wire.methodExit := by
  constructor
  · intro h
    unfold stops at h
    by_cases ht : ∃ text, Utf8.encode text = line
    · obtain ⟨text, rfl⟩ := ht
      rw [ofBytes_encode] at h
      split at h
      -- only a text that is a request can ask to stop
      · contradiction
      · split at h
        · contradiction
        · rename_i r hp
          refine ⟨r, ⟨text, rfl, hp⟩, ?_⟩
          by_contra hm
          rw [if_neg hm] at h
          contradiction
    · obtain ⟨flaw, hf⟩ := ofBytes_of_not_utf8 ht
      rw [hf] at h
      contradiction
  · rintro ⟨r, h, hm⟩
    rw [stops, ofBytes_of_asks h, if_pos hm]
    rfl

/-! ### What is answered -/

/-- A response to the request `id`, on a line of its own. -/
def IsResponse (id : Json) (out : String) : Prop :=
  ∃ r : Wire.Response, r.id = id ∧ Wire.encodeLine Wire.Response.schema r = .ok out ∧
    Wire.IsLine out

/-- What may be written in answer to a line. -/
inductive Answers (line : Bytes) : List String → Prop where
  /-- Nothing, when the line is blank. -/
  | blank {text : String} (h : Utf8.encode text = line) (hb : Text.isBlankText text = true) :
      Answers line []
  /-- Nothing, when the request has no identity, or `null` in its place. -/
  | notification {r : Wire.Request} (h : Asks line r) (hid : r.id = none) : Answers line []
  /-- A response without an identity, when the line is neither blank nor a request. -/
  | unreadable {out : String} (h : ∀ r, ¬Asks line r)
      (hb : ∀ text, Utf8.encode text = line → Text.isBlankText text = false)
      (ho : IsResponse .null out) : Answers line [out]
  /-- A response to the request that the line spells. -/
  | request {r : Wire.Request} {id : Json} {out : String} (h : Asks line r) (hid : r.id = some id)
      (hne : id ≠ .null) (ho : IsResponse id out) : Answers line [out]

theorem exists_responseLine (r : Wire.Response) :
    ∃ out, responseLine r = [out] ∧ IsResponse r.id out := by
  obtain ⟨out, ho, hl⟩ := Wire.exists_encodeLine_response r
  exact ⟨out, by rw [responseLine, ho], r, rfl, ho, hl⟩

theorem responseTo_id (id : Json) (reply : Except Wire.RpcError Wire.RunReply) :
    (responseTo id reply).id = id := by
  unfold responseTo
  split
  · split <;> rfl
  · rfl

theorem output_of_request (b : InProcess) {line : Bytes} {r : Wire.Request} {id : Json}
    (h : Line.ofBytes line = .request r) (hid : r.id = some id) :
    output b line = responseLine (responseTo id (answer b r).value.1) := by
  rw [output, respond, h]
  simp only [hid]
  rfl

theorem answers_output (b : InProcess) {line : Bytes} (h : stops line = false) :
    Answers line (output b line) := by
  by_cases ht : ∃ text, Utf8.encode text = line
  · obtain ⟨text, rfl⟩ := ht
    cases hb : Text.isBlankText text with
    | true =>
      have ho : Line.ofBytes (Utf8.encode text) = .blank := by rw [ofBytes_encode, if_pos hb]
      rw [output, respond, ho]
      exact .blank rfl hb
    | false =>
      cases hp : Wire.Request.schema.parse text with
      | error fault =>
        have ho : Line.ofBytes (Utf8.encode text) = .unreadable (fault.message text) := by
          rw [ofBytes_encode, hb, hp]
          rfl
        have hask : ∀ r, ¬Asks (Utf8.encode text) r := by
          rintro r ⟨text', he, hp'⟩
          rw [Utf8.encode_injective he, hp] at hp'
          contradiction
        obtain ⟨out, hout, hr⟩ := exists_responseLine
          (.failure .null (.unreadable (fault.message text)))
        rw [output, respond, ho]
        simp only [Traced.value_bind, Traced.value_pure, hout]
        exact .unreadable hask (fun text' he => Utf8.encode_injective he ▸ hb) hr
      | ok r =>
        have hask : Asks (Utf8.encode text) r := ⟨text, rfl, hp⟩
        have hm : r.method ≠ Wire.methodExit := fun hm => by
          simp [stops_iff.2 ⟨r, hask, hm⟩] at h
        have ho := ofBytes_of_asks hask
        rw [if_neg hm] at ho
        cases hid : r.id with
        | none =>
          rw [output, respond, ho]
          simp only [hid]
          exact .notification hask hid
        | some id =>
          obtain ⟨out, hout, hr⟩ := exists_responseLine (responseTo id (answer b r).value.1)
          rw [output_of_request b ho hid, hout]
          rw [responseTo_id] at hr
          exact .request hask hid (fun he => Wire.Request.id_ne_null hp (he ▸ hid)) hr
  · obtain ⟨flaw, ho⟩ := ofBytes_of_not_utf8 ht
    obtain ⟨out, hout, hr⟩ := exists_responseLine (.failure .null (.unreadable flaw.message))
    rw [output, respond, ho]
    simp only [Traced.value_bind, Traced.value_pure, hout]
    exact .unreadable (fun r ⟨text, he, _⟩ => ht ⟨text, he⟩)
      (fun text he => absurd ⟨text, he⟩ ht) hr

/-- A message is a line of its own. -/
theorem inputLines_encode {body : String} (h : Json.Grammar.NoControl body.toList) :
    inputLines (Utf8.encode (body ++ "\n")) = [Utf8.encode (body ++ "\n")] := by
  rw [Utf8.encode_append]
  exact inputLines_append_cons (Wire.not_mem_encode h (by decide)) []

/-- A line alone is answered as it is among others. -/
theorem serve_line (b : InProcess) {input line : Bytes} {lines : List Bytes}
    (hc : Cut input lines) (hl : line ∈ lines) (h : stops line = false) :
    (serve b line).value = output b line := by
  rw [serve, hc.inputLines_of_mem hl, serveLines_cons, h, serveLines]
  simp

theorem Answers.isLine {line : Bytes} {outs : List String} (h : Answers line outs) :
    ∀ out ∈ outs, Wire.IsLine out := by
  cases h with
  | blank => simp
  | notification => simp
  | unreadable _ _ ho =>
    obtain ⟨_, -, -, hl⟩ := ho
    simpa using hl
  | request _ _ _ ho =>
    obtain ⟨_, -, -, hl⟩ := ho
    simpa using hl

theorem isLine_of_mem_serve {b : InProcess} {input : Bytes} {out : String}
    (h : out ∈ (serve b input).value) : Wire.IsLine out := by
  rw [serve, serveLines_eq, List.mem_flatMap] at h
  obtain ⟨line, hl, ho⟩ := h
  have hs : stops line = false := by simpa using List.all_eq_true.1 List.all_takeWhile line hl
  exact (answers_output b hs).isLine out ho

/-- **Every request is answered exactly once, in order, and nothing else.**  The lines before the
first request to stop are answered one after the other, each as if it were the only one, and
nothing is written for the lines from there on. -/
theorem serve_answers (b : InProcess) (input : Bytes) :
    ∃ lines before after, Cut input lines ∧ lines = before ++ after ∧
      (∀ line ∈ before, ∀ r, Asks line r → r.method ≠ Wire.methodExit) ∧
      (∀ line ∈ after.head?, ∃ r, Asks line r ∧ r.method = Wire.methodExit) ∧
      (serve b input).value = before.flatMap (fun line => (serve b line).value) ∧
      ∀ line ∈ before, Answers line (serve b line).value := by
  have hc := cut_inputLines input
  have hbefore : ∀ line ∈ (inputLines input).takeWhile (!stops ·),
      line ∈ inputLines input ∧ stops line = false := fun line h =>
    ⟨(List.takeWhile_sublist _).subset h,
      by simpa using List.all_eq_true.1 List.all_takeWhile line h⟩
  refine ⟨inputLines input, (inputLines input).takeWhile (!stops ·),
    (inputLines input).dropWhile (!stops ·), hc, List.takeWhile_append_dropWhile.symm,
    fun line h r hr hm => ?_, fun line h => stops_iff.1 ?_, ?_, fun line h => ?_⟩
  · have := (hbefore line h).2
    rw [stops_iff.2 ⟨r, hr, hm⟩] at this
    contradiction
  · simpa using Text.eq_false_of_mem_head?_dropWhile h
  · rw [serve, serveLines_eq]
    refine List.flatMap_congr fun line h => ?_
    exact (serve_line b hc (hbefore line h).1 (hbefore line h).2).symm
  · rw [serve_line b hc (hbefore line h).1 (hbefore line h).2]
    exact answers_output b (hbefore line h).2

end Runner

end ToolRelay
