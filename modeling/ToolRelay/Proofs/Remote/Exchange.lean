import ToolRelay.Proofs.Remote.Refinement

/-!
# One exchange with any runner

Nothing is assumed here of what a runner does: its lines may be late, doubled, stray or nonsense,
it may not read what is written to it, and the system may refuse to write or to read.
`Conversation.Sends` says that a request can be written, `Conversation.FirstLine` which line is
taken after it, and `Pool.IsReply` what this line must say to be the reply to the request.

* `Conversation.receive_eq_ok_iff` : a line is taken exactly if it is the first one with something
  in it, and in time;
* `Pool.replyIn_eq_ok_iff` : a line is understood exactly if it is a reply to this very request;
* `Pool.call_eq_ok_iff` : a request succeeds exactly if it can be written down and sent, and the
  line that is taken is a reply to it;
* `Pool.call_eq_halt_iff` : when the program waits for ever;
* `Pool.exists_answered_iff`, `Pool.invoke_of_answered` : how an invocation ends, and with what.
-/

namespace ToolRelay

open Json

namespace Remote

namespace Conversation

/-- The last moment at which a line counts; 0 stands for no limit. -/
def deadline (c : Conversation) (timeoutMs : Nat) : Option Moment :=
  if timeoutMs = 0 then none else some (c.now + timeoutMs)

/-- What comes from the runner, or has come and not been taken. -/
def coming (c : Conversation) : List Arrival := (arrivals c.course).drop c.taken

/-- The line can be written, all of it, and the conversation is `sent` then. -/
def Sends (c : Conversation) (line : String) (sent : Conversation) : Prop :=
  ∃ moment, (c.tell line).course.delivery = .complete moment ∧
    sent = (c.tell line).advance moment

/-- Blank lines come, and nothing else. -/
def AreBlank (as : List Arrival) : Prop :=
  ∀ a ∈ as, ∃ s, a.2 = .ok (Utf8.encode s) ∧ Text.isBlankText s = true

/-- `text` is the first line that is not blank: only blank lines come before it, and it and they
come by the deadline, if there is one. -/
def FirstLine (deadline : Option Moment) (as : List Arrival) (text : String) : Prop :=
  ∃ blanks moment rest, as = blanks ++ (moment, .ok (Utf8.encode text)) :: rest ∧
    Text.isBlankText text = false ∧ AreBlank blanks ∧
    ∀ a ∈ blanks ++ [(moment, .ok (Utf8.encode text))], ∀ last ∈ deadline, a.1 ≤ last

variable {c c' : Conversation} {limit : Option Moment} {as : List Arrival} {moment : Moment}
  {arrival : Except TransportError Bytes} {line text : String} {timeoutMs : Nat}

theorem not_firstLine_nil : ¬FirstLine limit [] text := by
  rintro ⟨blanks, moment, rest, h, -⟩
  simp at h

/-- The first line is taken if it is not blank, else the search goes on behind it. -/
theorem firstLine_cons_iff :
    FirstLine limit ((moment, arrival) :: as) text ↔
      (∀ last ∈ limit, moment ≤ last) ∧ ∃ s, arrival = .ok (Utf8.encode s) ∧
        if Text.isBlankText s then FirstLine limit as text else s = text := by
  constructor
  · rintro ⟨blanks, m, rest, has, hb, hblanks, htime⟩
    cases blanks with
    | nil =>
      obtain ⟨hfirst, rfl⟩ := List.cons_eq_cons.1 has
      cases hfirst
      exact ⟨htime _ List.mem_cons_self, text, rfl, by rw [hb]; rfl⟩
    | cons a blanks =>
      obtain ⟨rfl, rfl⟩ := List.cons_eq_cons.1 has
      obtain ⟨s, hs, hsb⟩ := hblanks _ List.mem_cons_self
      refine ⟨htime _ List.mem_cons_self, s, hs, ?_⟩
      rw [if_pos hsb]
      exact ⟨blanks, m, rest, rfl, hb, fun a ha => hblanks a (List.mem_cons_of_mem _ ha),
        fun a ha => htime a (List.mem_cons_of_mem _ ha)⟩
  · rintro ⟨htime, s, rfl, h⟩
    by_cases hsb : Text.isBlankText s = true
    · rw [if_pos hsb] at h
      obtain ⟨blanks, m, rest, rfl, hb, hblanks, hrest⟩ := h
      refine ⟨(moment, .ok (Utf8.encode s)) :: blanks, m, rest, rfl, hb, ?_, ?_⟩
      · exact List.forall_mem_cons.2 ⟨⟨s, rfl, hsb⟩, hblanks⟩
      · rw [List.cons_append]
        exact List.forall_mem_cons.2 ⟨htime, hrest⟩
    · rw [if_neg hsb] at h
      subst h
      exact ⟨[], moment, as, rfl, by simpa using hsb, nofun, by simpa using htime⟩

theorem any_lt_iff : limit.any (· < moment) = true ↔ ¬∀ last ∈ limit, moment ≤ last := by
  cases limit <;> simp

theorem ne_encode_of_none {octets : Bytes} (h : Utf8.decode? octets = none) (s : String) :
    octets ≠ Utf8.encode s := by
  rintro rfl
  rw [Utf8.decode?_encode] at h
  contradiction

theorem unanswered_ne_ok : c.unanswered timeoutMs limit ≠ (.ok text, c') := by
  cases limit <;> simp [unanswered]

/-- The search finds the first line that is not blank, and nothing else. -/
theorem firstLine_eq_ok_iff :
    (∃ c', c.firstLine timeoutMs limit as = (.ok text, c')) ↔ FirstLine limit as text := by
  fun_induction c.firstLine timeoutMs limit as with
  | case1 c => simp [unanswered_ne_ok, not_firstLine_nil]
  | case2 c moment arrival as hlate =>
    rw [any_lt_iff] at hlate
    rw [firstLine_cons_iff]
    exact iff_of_false (fun ⟨_, h⟩ => unanswered_ne_ok h) fun h => hlate h.1
  | case3 c moment as hlate c' e => simp [firstLine_cons_iff]
  | case4 c moment as hlate c' octets hd =>
    simp [firstLine_cons_iff, ne_encode_of_none hd]
  | case5 c moment as hlate c' octets s hd hb ih =>
    obtain rfl := Utf8.decode?_eq_some_iff.1 hd
    rw [any_lt_iff, not_not] at hlate
    rw [ih, firstLine_cons_iff]
    constructor
    · exact fun h => ⟨hlate, s, rfl, by rwa [if_pos hb]⟩
    · rintro ⟨-, s', hs', h⟩
      obtain rfl := Utf8.encode_injective (Except.ok.inj hs')
      rwa [if_pos hb] at h
  | case6 c moment as hlate c' octets s hd hb =>
    obtain rfl := Utf8.decode?_eq_some_iff.1 hd
    rw [any_lt_iff, not_not] at hlate
    rw [firstLine_cons_iff]
    constructor
    · rintro ⟨_, h⟩
      cases h
      exact ⟨hlate, _, rfl, by rw [if_neg hb]⟩
    · rintro ⟨-, s', hs', h⟩
      obtain rfl := Utf8.encode_injective (Except.ok.inj hs')
      rw [if_neg hb] at h
      exact ⟨_, by rw [h]⟩

/-- The search has no end exactly if there is no deadline and only blank lines come. -/
theorem firstLine_eq_halt_iff :
    (c.firstLine timeoutMs limit as).1 = .error .halt ↔ limit = none ∧ AreBlank as := by
  fun_induction c.firstLine timeoutMs limit as with
  | case1 c => cases limit <;> simp [unanswered, AreBlank]
  | case2 c moment arrival as hlate =>
    cases limit with
    | none => simp at hlate
    | some last => simp [unanswered]
  | case3 c moment as hlate c' e => simp [AreBlank]
  | case4 c moment as hlate c' octets hd => simp [AreBlank, ne_encode_of_none hd]
  | case5 c moment as hlate c' octets s hd hb ih =>
    obtain rfl := Utf8.decode?_eq_some_iff.1 hd
    rw [ih, AreBlank, AreBlank, List.forall_mem_cons]
    exact and_congr_right fun _ => (and_iff_right ⟨s, rfl, hb⟩).symm
  | case6 c moment as hlate c' octets s hd hb =>
    obtain rfl := Utf8.decode?_eq_some_iff.1 hd
    refine iff_of_false nofun ?_
    rintro ⟨-, h⟩
    obtain ⟨s', hs', hb'⟩ := h _ List.mem_cons_self
    obtain rfl := Utf8.encode_injective (Except.ok.inj hs')
    exact hb hb'

theorem send_eq_ok_iff : c.send line = (.ok (), c') ↔ c.Sends line c' := by
  rw [send, Sends]
  cases (c.tell line).course.delivery <;> simp [eq_comm]

theorem Sends.unique (h : c.Sends line c') {c'' : Conversation} (h' : c.Sends line c'') :
    c' = c'' := by
  rw [← send_eq_ok_iff] at h h'
  exact congrArg Prod.snd (h.symm.trans h')

/-- What is said of the conversation when the line has been written is said of one. -/
theorem Sends.exists_and_iff (h : c.Sends line c') (P : Conversation → Prop) :
    (∃ sent, c.Sends line sent ∧ P sent) ↔ P c' := by
  constructor
  · rintro ⟨sent, hsent, hp⟩
    exact h.unique hsent ▸ hp
  · exact fun hp => ⟨c', h, hp⟩

theorem Sends.not_stuck (h : c.Sends line c') : (c.tell line).course.delivery ≠ .stuck := by
  obtain ⟨moment, hd, -⟩ := h
  simp [hd]

theorem not_sends_of_error {o : Obstacle} (h : c.send line = (.error o, c')) (sent : Conversation) :
    ¬c.Sends line sent := by
  rw [← send_eq_ok_iff, h]
  simp

theorem send_eq_halt_iff :
    (c.send line).1 = .error .halt ↔ (c.tell line).course.delivery = .stuck := by
  rw [send]
  cases (c.tell line).course.delivery <;> simp

/-- The first line that is not blank is received, and nothing else. -/
theorem receive_eq_ok_iff :
    (∃ c', c.receive timeoutMs = (.ok text, c')) ↔
      FirstLine (c.deadline timeoutMs) c.coming text := firstLine_eq_ok_iff

/-- The program waits for ever for a line exactly if there is no limit and only blank lines
come. -/
theorem receive_eq_halt_iff :
    (c.receive timeoutMs).1 = .error .halt ↔ timeoutMs = 0 ∧ AreBlank c.coming := by
  rw [receive, firstLine_eq_halt_iff, coming]
  simp

/-! ### Whatever comes of it, it is the same runner -/

theorem process_send (c : Conversation) (line : String) : (c.send line).2.process = c.process := by
  rw [send]
  cases (c.tell line).course.delivery <;> rfl

theorem process_firstLine (c : Conversation) (timeoutMs : Nat) (limit : Option Moment)
    (as : List Arrival) : (c.firstLine timeoutMs limit as).2.process = c.process := by
  have hunanswered (c : Conversation) : (c.unanswered timeoutMs limit).2.process = c.process := by
    cases limit <;> rfl
  fun_induction c.firstLine timeoutMs limit as with
  | case1 c => exact hunanswered c
  | case2 c => exact hunanswered c
  | case3 | case4 | case6 => rfl
  | case5 c moment as hlate c' octets s hd hb ih => exact ih

theorem process_receive (c : Conversation) (timeoutMs : Nat) :
    (c.receive timeoutMs).2.process = c.process := process_firstLine ..

end Conversation

namespace Pool

variable {host : Host} {p : Pool} {c c' : Conversation} {id timeoutMs : Nat} {t : Target}
  {i : Invocation} {cwd text : String} {reply : Wire.RunReply}

/-! ### Requests and replies -/

theorem requestLine_of_none (h : i.workingDir.toString? = none) :
    requestLine id t i = .error (.malformed (Unwritable.message .pathNotUtf8)) := by
  have hencode : Wire.RunParams.schema.encode (params t i) = .error .pathNotUtf8 :=
    Wire.RunParams.encode_of_none h
  rw [requestLine, hencode]
  rfl

/-- The text is a response to the request `id` that carries `reply`: it names this request and no
error, and its result, which is not `null`, can be read as the reply. -/
def IsReply (id : Nat) (text : String) (reply : Wire.RunReply) : Prop :=
  ∃ response result, Wire.Response.schema.parse text = .ok response ∧ response.id = .int id ∧
    response.error = none ∧ response.result = some result ∧ result ≠ .null ∧
    Wire.RunReply.schema.decode result = .ok reply

theorem isId_eq_true_iff {j : Json} : isId id j = true ↔ j = .int id := by
  cases j <;> simp [isId]

/-- A line is understood exactly if it is a reply to the request. -/
theorem replyIn_eq_ok_iff : replyIn id text = .ok reply ↔ IsReply id text reply := by
  rw [replyIn, IsReply]
  cases hp : Wire.Response.schema.parse text with
  | error fault => simp
  | ok response =>
    have hnull := Wire.Response.result_ne_null hp
    by_cases hid : isId id response.id = true
    · have hint := isId_eq_true_iff.1 hid
      -- of error and result, the error is looked at first
      cases he : response.error with
      | some e => simp [hid, he]
      | none =>
        cases hr : response.result with
        | none => simp [hid, he, hr]
        | some result =>
          have hne : result ≠ .null := fun h => hnull (h ▸ hr)
          cases hd : Wire.RunReply.schema.decode result with
          | error complaint => simp [hid, he, hr, hd]
          | ok decoded => simp [isId, hint, he, hr, hd, hne]
    · have hint : response.id ≠ .int id := fun h => hid (isId_eq_true_iff.2 h)
      simp [hid, hint]

/-- A line is the reply to one request only, and says one thing. -/
theorem IsReply.unique {id' : Nat} {reply' : Wire.RunReply} (h : IsReply id text reply)
    (h' : IsReply id' text reply') : id = id' ∧ reply = reply' := by
  obtain ⟨response, result, hp, hid, -, hr, -, hd⟩ := h
  obtain ⟨response', result', hp', hid', -, hr', -, hd'⟩ := h'
  rw [hp] at hp'
  obtain rfl := Except.ok.inj hp'
  have hids : (id : Int) = id' := Json.int.inj (hid.symm.trans hid')
  rw [hr] at hr'
  obtain rfl := Option.some.inj hr'
  exact ⟨Int.ofNat.inj hids, Except.ok.inj (hd.symm.trans hd')⟩

/-! ### Calls -/

/-- What becomes of a call, step by step: the request cannot be written down; or it cannot be sent;
or nothing is received; or a line is received and looked at. -/
theorem call_cases (c : Conversation) (timeoutMs id : Nat) (t : Target) (i : Invocation) :
    (∃ e, i.workingDir.toString? = none ∧ call c timeoutMs id t i = (.error (.error e), c)) ∨
    ∃ cwd, i.workingDir.toString? = some cwd ∧
      let line := requestText id t i cwd ++ "\n"
      (∃ o c', c.send line = (.error o, c') ∧ call c timeoutMs id t i = (.error o, c')) ∨
      ∃ sent, c.Sends line sent ∧
        ((∃ o c', sent.receive timeoutMs = (.error o, c') ∧
            call c timeoutMs id t i = (.error o, c')) ∨
          ∃ text c', sent.receive timeoutMs = (.ok text, c') ∧
            call c timeoutMs id t i = ((replyIn id text).mapError .error, c')) := by
  cases hcwd : i.workingDir.toString? with
  | none => exact .inl ⟨_, rfl, by rw [call, requestLine_of_none hcwd]⟩
  | some cwd =>
    refine .inr ⟨cwd, rfl, ?_⟩
    rw [call, requestLine_eq hcwd]
    dsimp only
    rcases hsend : c.send (requestText id t i cwd ++ "\n") with ⟨o | done, sent⟩
    · exact .inl ⟨o, sent, rfl, rfl⟩
    · refine .inr ⟨sent, Conversation.send_eq_ok_iff.1 hsend, ?_⟩
      dsimp only
      rcases sent.receive timeoutMs with ⟨o | text, c'⟩
      · exact .inl ⟨o, c', rfl, rfl⟩
      · exact .inr ⟨text, c', rfl, rfl⟩

theorem mapError_eq_ok_iff {text : String} :
    (replyIn id text).mapError Obstacle.error = .ok reply ↔ IsReply id text reply := by
  rw [← replyIn_eq_ok_iff]
  cases replyIn id text <;> simp [Except.mapError]

theorem mapError_ne_halt {text : String} :
    (replyIn id text).mapError Obstacle.error ≠ .error .halt := by
  cases replyIn id text <;> simp [Except.mapError]

/-- **When a request succeeds**: it can be written down and sent, and the line that is taken after
it is a reply to it. -/
theorem call_eq_ok_iff :
    (∃ c', call c timeoutMs id t i = (.ok reply, c')) ↔
      ∃ cwd sent text, i.workingDir.toString? = some cwd ∧
        c.Sends (requestText id t i cwd ++ "\n") sent ∧
        Conversation.FirstLine (sent.deadline timeoutMs) sent.coming text ∧
        IsReply id text reply := by
  obtain ⟨e, hcwd, hc⟩ | ⟨cwd, hcwd, ⟨o, c', hsend, hc⟩ | ⟨sent, hsends, hrest⟩⟩ :=
    call_cases c timeoutMs id t i
  · simp [hc, hcwd]
  · simp [hc, hcwd, Conversation.not_sends_of_error hsend]
  · simp only [hcwd, Option.some.injEq, exists_and_left, exists_eq_left', hsends.exists_and_iff,
      ← Conversation.receive_eq_ok_iff]
    obtain ⟨o, c', hreceive, hc⟩ | ⟨text, c', hreceive, hc⟩ := hrest
    · simp [hc, hreceive]
    · simp [hc, hreceive, mapError_eq_ok_iff]

/-- **When the program waits for ever**: the request can be written down, but it gets stuck on the
way, or there is no limit and nothing but blank lines come after it. -/
theorem call_eq_halt_iff :
    (call c timeoutMs id t i).1 = .error .halt ↔
      ∃ cwd, i.workingDir.toString? = some cwd ∧
        let line := requestText id t i cwd ++ "\n"
        ((c.tell line).course.delivery = .stuck ∨
          ∃ sent, c.Sends line sent ∧ timeoutMs = 0 ∧ Conversation.AreBlank sent.coming) := by
  obtain ⟨e, hcwd, hc⟩ | ⟨cwd, hcwd, ⟨o, c', hsend, hc⟩ | ⟨sent, hsends, hrest⟩⟩ :=
    call_cases c timeoutMs id t i
  · simp [hc, hcwd]
  · have hstuck := @Conversation.send_eq_halt_iff c (requestText id t i cwd ++ "\n")
    rw [hsend] at hstuck
    simp [hc, hcwd, Conversation.not_sends_of_error hsend, ← hstuck]
  · simp only [hcwd, Option.some.injEq, exists_eq_left', hsends.not_stuck, false_or,
      hsends.exists_and_iff, ← Conversation.receive_eq_halt_iff]
    obtain ⟨o, c', hreceive, hc⟩ | ⟨text, c', hreceive, hc⟩ := hrest
    · simp [hc, hreceive]
    · rw [hc, hreceive]
      exact iff_of_false mapError_ne_halt nofun

theorem process_call (c : Conversation) (timeoutMs id : Nat) (t : Target) (i : Invocation) :
    (call c timeoutMs id t i).2.process = c.process := by
  obtain ⟨e, -, hc⟩ | ⟨cwd, -, ⟨o, c', hsend, hc⟩ | ⟨sent, hsends, hrest⟩⟩ :=
    call_cases c timeoutMs id t i
  · rw [hc]
  · rw [hc, ← c.process_send, hsend]
  · have hprocess : sent.process = c.process := by
      obtain ⟨moment, -, rfl⟩ := hsends
      rfl
    rw [← hprocess, ← sent.process_receive timeoutMs]
    obtain ⟨o, c', hreceive, hc⟩ | ⟨text, c', hreceive, hc⟩ := hrest <;> rw [hc, hreceive]

/-! ### Invocations -/

theorem find?_evict (p : Pool) (key : Key) : (p.evict key).find? key = none := by
  simp [find?, evict]

theorem runnerFor_of_find? {key : Key} (h : p.find? key = some c) :
    p.runnerFor host key = .ok c := by
  rw [runnerFor, engage, h]
  rfl

theorem runnerFor_of_none {key : Key} (h : p.find? key = none) :
    p.runnerFor host key = p.spawn host key := by
  rw [runnerFor, engage, h]
  rfl

/-- **All that an invocation can do.**  No runner can be started, and the pool stays as it is; or
the request fails and its runner is given up; or it succeeds and its runner is kept; or the program
waits for ever. -/
theorem invoke_cases (host : Host) (p : Pool) (t : Target) (i : Invocation) :
    (∃ e, p.find? t.key = none ∧ p.spawn host t.key = .error e ∧
      p.invoke host t i = (.failed ⟨.transport, e.message, none⟩, p)) ∨
    ∃ c c', p.runnerFor host t.key = .ok c ∧
      ((∃ e, call c p.timeoutMs p.nextId.toNat t i = (.error (.error e), c') ∧
          p.invoke host t i = (.failed ⟨.transport, e.message, none⟩, p.asked.evict t.key)) ∨
        (∃ reply, call c p.timeoutMs p.nextId.toNat t i = (.ok reply, c') ∧
          p.invoke host t i = (resultOf reply, p.asked.keep t.key c')) ∨
        call c p.timeoutMs p.nextId.toNat t i = (.error .halt, c') ∧
          p.invoke host t i = (.pending, p.asked.keep t.key c')) := by
  cases hr : p.runnerFor host t.key with
  | error e =>
    have hf : p.find? t.key = none := by
      cases hf : p.find? t.key with
      | none => rfl
      | some c =>
        rw [runnerFor_of_find? hf] at hr
        contradiction
    exact .inl ⟨e, hf, runnerFor_of_none hf ▸ hr, by rw [invoke_eq, hr, complete]⟩
  | ok c =>
    rw [invoke_eq, hr, complete]
    rcases hc : call c p.timeoutMs p.nextId.toNat t i with ⟨(e | -) | reply, c'⟩
    · exact .inr ⟨c, c', rfl, .inl ⟨e, hc, rfl⟩⟩
    · exact .inr ⟨c, c', rfl, .inr (.inr ⟨hc, rfl⟩)⟩
    · exact .inr ⟨c, c', rfl, .inr (.inl ⟨reply, hc, rfl⟩)⟩

/-- The channel to the runner failed. -/
def IsTransport (r : InvocationResult) : Prop := ∃ f, r.failure = some f ∧ f.kind = .transport

theorem isTransport_failed (message : String) :
    IsTransport (.failed ⟨.transport, message, none⟩) := ⟨_, rfl, rfl⟩

theorem not_isTransport_pending : ¬IsTransport .pending := by
  rintro ⟨f, hf, -⟩
  contradiction

/-- A reply never stands for a failure of the channel. -/
theorem not_isTransport_resultOf (reply : Wire.RunReply) : ¬IsTransport (resultOf reply) := by
  rintro ⟨f, hf, hk⟩
  rw [resultOf] at hf
  split at hf
  · contradiction
  · obtain rfl := Option.some.inj hf
    contradiction

/-- What it takes for an invocation to have the answer `reply`: there is a runner, or one can be
started; the request can be written down and sent; and the line that is taken after it is a reply
to this request. -/
def Answered (host : Host) (p : Pool) (t : Target) (i : Invocation) (reply : Wire.RunReply) :
    Prop :=
  ∃ c cwd sent text, p.runnerFor host t.key = .ok c ∧ i.workingDir.toString? = some cwd ∧
    c.Sends (requestText p.nextId.toNat t i cwd ++ "\n") sent ∧
    Conversation.FirstLine (sent.deadline p.timeoutMs) sent.coming text ∧
    IsReply p.nextId.toNat text reply

/-- What it takes for an invocation to have no end: there is a runner, or one can be started, and
the request gets stuck in a pipe that nobody reads, or there is no limit and the runner sends
nothing but blank lines after it and does not close its output. -/
def Waits (host : Host) (p : Pool) (t : Target) (i : Invocation) : Prop :=
  ∃ c cwd, p.runnerFor host t.key = .ok c ∧ i.workingDir.toString? = some cwd ∧
    let line := requestText p.nextId.toNat t i cwd ++ "\n"
    ((c.tell line).course.delivery = .stuck ∨
      ∃ sent, c.Sends line sent ∧ p.timeoutMs = 0 ∧ Conversation.AreBlank sent.coming)

theorem answered_iff :
    Answered host p t i reply ↔
      ∃ c c', p.runnerFor host t.key = .ok c ∧
        call c p.timeoutMs p.nextId.toNat t i = (.ok reply, c') := by
  constructor
  · rintro ⟨c, cwd, sent, text, hr, h⟩
    obtain ⟨c', hc⟩ := call_eq_ok_iff.2 ⟨cwd, sent, text, h⟩
    exact ⟨c, c', hr, hc⟩
  · rintro ⟨c, c', hr, hc⟩
    obtain ⟨cwd, sent, text, h⟩ := call_eq_ok_iff.1 ⟨c', hc⟩
    exact ⟨c, cwd, sent, text, hr, h⟩

theorem waits_iff :
    Waits host p t i ↔
      ∃ c, p.runnerFor host t.key = .ok c ∧
        (call c p.timeoutMs p.nextId.toNat t i).1 = .error .halt := by
  constructor
  · rintro ⟨c, cwd, hr, h⟩
    exact ⟨c, hr, call_eq_halt_iff.2 ⟨cwd, h⟩⟩
  · rintro ⟨c, hr, h⟩
    obtain ⟨cwd, h⟩ := call_eq_halt_iff.1 h
    exact ⟨c, cwd, hr, h⟩

/-- The result is that of the answer. -/
theorem invoke_of_answered (h : Answered host p t i reply) :
    (p.invoke host t i).1 = resultOf reply := by
  obtain ⟨c, c', hr, hc⟩ := answered_iff.1 h
  rw [invoke_eq, hr, complete]
  simp only [hc]

/-- An invocation without an end has no result. -/
theorem invoke_of_waits (h : Waits host p t i) : (p.invoke host t i).1 = .pending := by
  obtain ⟨c, hr, hhalt⟩ := waits_iff.1 h
  have hc : call c p.timeoutMs p.nextId.toNat t i =
      (.error .halt, (call c p.timeoutMs p.nextId.toNat t i).2) := Prod.ext hhalt rfl
  rw [invoke_eq, hr, complete, hc]

/-- An invocation that is answered has an end. -/
theorem Answered.not_waits (h : Answered host p t i reply) : ¬Waits host p t i := by
  obtain ⟨c, c', hr, hc⟩ := answered_iff.1 h
  rw [waits_iff]
  rintro ⟨c₀, hr₀, hhalt⟩
  obtain rfl := Except.ok.inj (hr.symm.trans hr₀)
  rw [hc] at hhalt
  contradiction

/-- Without an answer the channel has failed and the runner is given up, if the invocation has an
end. -/
theorem invoke_of_not_answered (hw : ¬Waits host p t i) (h : ¬∃ reply, Answered host p t i reply) :
    IsTransport (p.invoke host t i).1 ∧ (p.invoke host t i).2.find? t.key = none := by
  obtain ⟨e, hf, -, he⟩ | ⟨c, c', hr, ⟨e, -, he⟩ | ⟨reply, hc, -⟩ | ⟨hc, -⟩⟩ :=
    p.invoke_cases host t i
  · rw [he]
    exact ⟨isTransport_failed _, hf⟩
  · rw [he]
    exact ⟨isTransport_failed _, find?_evict _ _⟩
  · exact absurd ⟨reply, answered_iff.2 ⟨c, c', hr, hc⟩⟩ h
  · exact absurd (waits_iff.2 ⟨c, hr, by rw [hc]⟩) hw

/-- How an invocation ends: there is an answer exactly if it has an end and the channel does not
fail. -/
theorem exists_answered_iff :
    (∃ reply, Answered host p t i reply) ↔
      ¬Waits host p t i ∧ ¬IsTransport (p.invoke host t i).1 := by
  constructor
  · rintro ⟨reply, h⟩
    rw [invoke_of_answered h]
    exact ⟨h.not_waits, not_isTransport_resultOf reply⟩
  · rintro ⟨hw, ht⟩
    by_contra h
    exact ht (invoke_of_not_answered hw h).1

end Pool

end Remote

end ToolRelay
