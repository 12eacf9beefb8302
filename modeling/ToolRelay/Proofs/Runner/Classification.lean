import ToolRelay.Proofs.Invocation.Deed
import ToolRelay.Proofs.Invocation.InProcess
import ToolRelay.Proofs.Runner.Serve

/-!
# Which requests a runner refuses

A request may be refused for its version, for its method, or for its parameters, and the first of
these reasons counts (`Runner.Refused`).  A request that is not refused has a module run once
(`Runner.moduleRun`), and whatever the module comes to is the result: its fault is part of the reply
and never a refusal (`Runner.Replies`).

* `Runner.answer_of_refused` : a refusal depends on nothing but the request;
* `Runner.serve_of_refused`, `Runner.deeds_serve` : a line that is refused sets nothing going, and
  any other has its module run once;
* `Runner.serve_eq_of_moduleRun_eq` : the answer is decided by the one run;
* `Runner.serve_classifies` : how the lines of an input are answered.
-/

namespace ToolRelay

namespace Runner

variable {b b' : InProcess} {r : Wire.Request} {p : Wire.RunParams} {e : Wire.RpcError}

/-! ### Refusals -/

/-- Why a request is refused; the first reason counts. -/
inductive Refused (r : Wire.Request) : Wire.RpcError → Prop where
  /-- It is of another version of the protocol. -/
  | version (h : r.jsonrpc ≠ Wire.version) :
      Refused r (.invalid ("Unsupported jsonrpc version '" ++ r.jsonrpc ++ "'"))
  /-- It does not ask for a run. -/
  | method (hv : r.jsonrpc = Wire.version) (h : r.method ≠ Wire.methodRun) :
      Refused r (.unknownMethod ("Unknown method '" ++ r.method ++ "'"))
  /-- Its parameters are not those of a run. -/
  | params {fault : Complaint} (hv : r.jsonrpc = Wire.version) (hm : r.method = Wire.methodRun)
      (h : Wire.RunParams.schema.decode r.params = .error fault) :
      Refused r (.unfitParams fault.message)

/-- A request for a run with the given parameters. -/
structure Runs (r : Wire.Request) (p : Wire.RunParams) : Prop where
  /-- It is of this version of the protocol. -/
  version : r.jsonrpc = Wire.version
  /-- It asks for a run. -/
  method : r.method = Wire.methodRun
  /-- Its parameters can be read. -/
  params : Wire.RunParams.schema.decode r.params = .ok p

theorem refused_or_runs (r : Wire.Request) : (∃ e, Refused r e) ∨ ∃ p, Runs r p := by
  by_cases hv : r.jsonrpc = Wire.version
  · by_cases hm : r.method = Wire.methodRun
    · cases hp : Wire.RunParams.schema.decode r.params with
      | error fault => exact .inl ⟨_, .params hv hm hp⟩
      | ok p => exact .inr ⟨p, hv, hm, hp⟩
    · exact .inl ⟨_, .method hv hm⟩
  · exact .inl ⟨_, .version hv⟩

theorem answer_of_refused (h : Refused r e) (b : InProcess) : answer b r = pure (.error e, b) := by
  cases h with
  | version h => rw [answer, if_pos h]
  | method hv h => rw [answer, if_neg (not_not_intro hv), if_pos h]
  | params hv hm h => rw [answer, if_neg (not_not_intro hv), if_neg (not_not_intro hm), h]

/-- The code of a refusal tells which reason it was. -/
theorem Refused.code_iff (h : Refused r e) :
    (e.code = -32600 ↔ r.jsonrpc ≠ Wire.version) ∧
    (e.code = -32601 ↔ r.jsonrpc = Wire.version ∧ r.method ≠ Wire.methodRun) ∧
    (e.code = -32602 ↔ r.jsonrpc = Wire.version ∧ r.method = Wire.methodRun ∧
      ∀ p, Wire.RunParams.schema.decode r.params ≠ .ok p) := by
  cases h with
  | version h => simp [Wire.RpcError.invalid, h]
  | method hv h => simp [Wire.RpcError.unknownMethod, hv, h]
  | params hv hm h => simp [Wire.RpcError.unfitParams, hv, hm, h]

theorem Refused.not_runs (h : Refused r e) (p : Wire.RunParams) : ¬ Runs r p := by
  intro hr
  cases h with
  | version h => exact h hr.version
  | method _ h => exact h hr.method
  | params _ _ h =>
    rw [hr.params] at h
    contradiction

/-! ### Runs -/

/-- The call by which the module of a request is run: the argument vector begins with the module,
and there is a standard input exactly if the request says so. -/
def moduleCall (b : InProcess) (p : Wire.RunParams) : ModuleCall where
  argv := if p.argv.head? = some p.module then p.argv else p.module :: p.argv
  cwd := p.cwd
  stdin := if p.useStdin then some (p.source.getD "") else none
  searchPath := b.searchPath
  stdout := ""
  stderr := ""

/-- The one run of the module of a request, if there is such a module. -/
def moduleRun (b : InProcess) (p : Wire.RunParams) : Option ModuleRun :=
  (b.registry.get? p.module).map fun m => m.run (moduleCall b p)

/-- What is set going by this run. -/
def moduleDeed (b : InProcess) (p : Wire.RunParams) : Deed :=
  let call := moduleCall b p
  .run call.argv call.cwd call.stdin

/-- What is replied to a request for the module `name`, depending on its run. -/
inductive Replies (name : String) : Option ModuleRun → Wire.RunReply → Prop where
  /-- There is no such module. -/
  | unknown : Replies name none
      ⟨"", "", some (Failure.report ⟨.moduleFault, "No module named '" ++ name ++ "'", none⟩)⟩
  /-- The run ends with a fault, and nothing else is said. -/
  | fault {run : ModuleRun} {fault : Fault} (h : run.fault = some fault) :
      Replies name (some run)
        ⟨"", "", some (Failure.report ⟨.moduleFault, fault.message name, fault.cause⟩)⟩
  /-- The run ends without a fault. -/
  | output {run : ModuleRun} (h : run.fault = none) :
      Replies name (some run) ⟨run.stdout, run.stderr, none⟩

theorem head?_argv_invocation (p : Wire.RunParams) :
    (invocation p).argv.head? = some p.module := by
  rw [invocation]
  dsimp only
  split_ifs with h
  · exact h
  · rfl

/-- A request sets going the one run of its module, if there is such a module. -/
theorem deeds_invocation (b : InProcess) (p : Wire.RunParams) :
    b.deeds (invocation p) = (moduleRun b p).toList.map fun _ => moduleDeed b p := by
  rw [InProcess.deeds, head?_argv_invocation, Option.bind_some, moduleRun]
  cases b.registry.get? p.module <;> rfl

/-- **The reply is decided by the one run of the module.** -/
theorem replies_invoke (b : InProcess) (p : Wire.RunParams) :
    Replies p.module (moduleRun b p) (replyOf (b.invoke (invocation p)).1) := by
  have hhead := head?_argv_invocation p
  have hends := b.ends_invoke (invocation p)
  generalize (b.invoke (invocation p)).1 = outcome at hends ⊢
  cases hends with
  | unnamed h =>
    rw [h] at hhead
    contradiction
  | unknown h hm =>
    obtain rfl := Option.some.inj (hhead.symm.trans h)
    rw [moduleRun, hm]
    exact .unknown
  | fault h hm hf =>
    obtain rfl := Option.some.inj (hhead.symm.trans h)
    rw [moduleRun, hm]
    exact .fault hf
  | output h hm hf =>
    obtain rfl := Option.some.inj (hhead.symm.trans h)
    rw [moduleRun, hm]
    exact .output hf

theorem Replies.unique {name : String} {run : Option ModuleRun} {reply reply' : Wire.RunReply}
    (h : Replies name run reply) (h' : Replies name run reply') : reply = reply' := by
  cases h with
  | unknown =>
    cases h'
    rfl
  | fault hf =>
    cases h' with
    | fault hf' => rw [Option.some.inj (hf.symm.trans hf')]
    | output hf' => rw [hf] at hf'; contradiction
  | output hf =>
    cases h' with
    | fault hf' => rw [hf] at hf'; contradiction
    | output => rfl

/-- A reply with an exception says nothing else. -/
theorem Replies.of_exception {name : String} {run : Option ModuleRun} {reply : Wire.RunReply}
    (h : Replies name run reply) :
    reply.exception.isSome = (run.all (·.fault.isSome)) ∧
      (reply.exception.isSome = true → reply.stdout = "" ∧ reply.stderr = "") := by
  cases h with
  | unknown => exact ⟨rfl, fun _ => ⟨rfl, rfl⟩⟩
  | fault hf => exact ⟨by simp [hf], fun _ => ⟨rfl, rfl⟩⟩
  | output hf => exact ⟨by simp [hf], nofun⟩

/-! ### One line -/

variable {line : Bytes} {id : Json}

theorem serve_of_request (b : InProcess) (hl : inputLines line = [line])
    (h : Line.ofBytes line = .request r) (hid : r.id = some id) :
    serve b line = ⟨responseLine (responseTo id (answer b r).value.1), (answer b r).events⟩ := by
  rw [serve, hl, serveLines, respond, h]
  simp only [hid]
  exact congrArg₂ Traced.mk (List.append_nil _)
    ((List.append_nil _).trans (List.append_nil _))

/-- A refusal depends on nothing but the request: no module is run, and nothing is noted. -/
theorem serve_of_refused (b : InProcess) (hl : inputLines line = [line])
    (h : Line.ofBytes line = .request r) (hid : r.id = some id) (hr : Refused r e) :
    serve b line = pure (responseLine (.failure id e)) := by
  rw [serve_of_request b hl h hid, answer_of_refused hr]
  rfl

theorem events_run (b : InProcess) (p : Wire.RunParams) :
    (run b p).events = (b.deeds (invocation p)).map .deed ++
      (run b p).value.1.exception.toList.map (.note .error) := by
  rw [run, Traced.events_bind, Traced.value_bind, b.events_conduct]
  rcases (b.conduct (invocation p)).value with ⟨f | r, b'⟩ <;> rfl

theorem answer_of_runs (b : InProcess) (h : Runs r p) :
    ∃ reply, Replies p.module (moduleRun b p) reply ∧ (answer b r).value.1 = .ok reply ∧
      (answer b r).events = ((moduleRun b p).toList.map fun _ => .deed (moduleDeed b p)) ++
        reply.exception.toList.map (.note .error) := by
  refine ⟨_, replies_invoke b p, answer_of_decode b h.version h.method h.params, ?_⟩
  rw [answer, if_neg (not_not_intro h.version), if_neg (not_not_intro h.method), h.params]
  dsimp only
  rw [Traced.events_bind, Traced.events_pure, List.append_nil, events_run, run_eq,
    deeds_invocation, List.map_map]
  rfl

theorem serve_of_runs (b : InProcess) (hl : inputLines line = [line])
    (h : Line.ofBytes line = .request r) (hid : r.id = some id) (hr : Runs r p) :
    ∃ reply, Replies p.module (moduleRun b p) reply ∧
      serve b line = ⟨responseLine (responseTo id (.ok reply)),
        ((moduleRun b p).toList.map fun _ => .deed (moduleDeed b p)) ++
          reply.exception.toList.map (.note .error)⟩ := by
  obtain ⟨reply, hreply, hvalue, hevents⟩ := answer_of_runs b hr
  exact ⟨reply, hreply, by rw [serve_of_request b hl h hid, hvalue, hevents]⟩

/-- **A line that is not refused has its module run once**, and nothing else is set going. -/
theorem deeds_serve (b : InProcess) (hl : inputLines line = [line])
    (h : Line.ofBytes line = .request r) (hid : r.id = some id) (hr : Runs r p) :
    (serve b line).deeds = (moduleRun b p).toList.map fun _ => moduleDeed b p := by
  obtain ⟨reply, -, hserve⟩ := serve_of_runs b hl h hid hr
  rw [hserve, Traced.deeds, List.filterMap_append, List.filterMap_map, List.filterMap_map]
  cases reply.exception <;> cases moduleRun b p <;> rfl

/-- The answer is decided by the one run of the module: where it is the same, so is the answer. -/
theorem serve_eq_of_moduleRun_eq (hl : inputLines line = [line])
    (h : Line.ofBytes line = .request r) (hid : r.id = some id) (hr : Runs r p)
    (hrun : moduleRun b' p = moduleRun b p) : serve b' line = serve b line := by
  obtain ⟨reply, hreply, hserve⟩ := serve_of_runs b hl h hid hr
  obtain ⟨reply', hreply', hserve'⟩ := serve_of_runs b' hl h hid hr
  rw [hrun] at hreply'
  have hdeed : moduleDeed b' p = moduleDeed b p := rfl
  rw [hserve, hserve', hrun, hdeed, hreply.unique hreply']

/-! ### The response -/

/-- How the response classifies a request: for each code the requests that are refused with it, and
for all others what the result says. -/
structure Classified (b : InProcess) (r : Wire.Request) (response : Wire.Response) : Prop where
  /-- There is a result or a refusal, and not both. -/
  one : response.result.isSome = !response.error.isSome
  /-- Another version of the protocol is refused. -/
  version : response.error.map (·.code) = some (-32600) ↔ r.jsonrpc ≠ Wire.version
  /-- In this version another method is refused. -/
  method : response.error.map (·.code) = some (-32601) ↔
    r.jsonrpc = Wire.version ∧ r.method ≠ Wire.methodRun
  /-- For this method parameters that cannot be read are refused. -/
  params : response.error.map (·.code) = some (-32602) ↔
    r.jsonrpc = Wire.version ∧ r.method = Wire.methodRun ∧
      ∀ p, Wire.RunParams.schema.decode r.params ≠ .ok p
  /-- Everything else has the reply to the one run of the module as its result; it says nothing else
  if there is an exception, which there is if the module is unknown or ends with a fault. -/
  reply : ∀ p, Runs r p → ∃ reply result, Replies p.module (moduleRun b p) reply ∧
    reply.exception.isSome = (moduleRun b p).all (·.fault.isSome) ∧
    (reply.exception.isSome = true → reply.stdout = "" ∧ reply.stderr = "") ∧
    Wire.RunReply.schema.encode reply = .ok result ∧ response.result = some result

theorem classified_failure (b : InProcess) (id : Json) (h : Refused r e) :
    Classified b r (.failure id e) where
  one := rfl
  version := Option.some_inj.trans h.code_iff.1
  method := Option.some_inj.trans h.code_iff.2.1
  params := Option.some_inj.trans h.code_iff.2.2
  reply p hr := absurd hr (h.not_runs p)

theorem classified_success (id : Json) (h : Runs r p) {reply : Wire.RunReply}
    (hreply : Replies p.module (moduleRun b p) reply) :
    Classified b r (responseTo id (.ok reply)) := by
  have hencode := Wire.RunReply.encode_eq reply
  rw [responseTo, hencode]
  exact {
    one := rfl
    version := iff_of_false nofun (not_not_intro h.version)
    method := iff_of_false nofun fun hm => hm.2 h.method
    params := iff_of_false nofun fun hp => hp.2.2 p h.params
    reply := fun p' h' => by
      obtain rfl := Except.ok.inj (h.params.symm.trans h'.params)
      exact ⟨reply, _, hreply, hreply.of_exception.1, hreply.of_exception.2, hencode, rfl⟩ }

/-! ### An input -/

theorem serveLines_append (b : InProcess) {before : List Bytes}
    (h : ∀ line ∈ before, stops line = false) (rest : List Bytes) :
    (serveLines b (before ++ rest)).value =
      before.flatMap (output b) ++ (serveLines b rest).value := by
  induction before with
  | nil => rfl
  | cons line before ih =>
    obtain ⟨hline, hbefore⟩ := List.forall_mem_cons.1 h
    rw [List.cons_append, serveLines_cons, hline, ih hbefore, List.flatMap_cons, List.append_assoc]
    rfl

/-- **Which requests a runner refuses.**  Let a line that no request to stop comes before spell a
request that has an identity and does not ask to stop itself.  Among the answers to the lines before
and after it stands exactly one response with its identity, and the response classifies the request:
another version of the protocol, another method and parameters that cannot be read are refused, in
this order, each with its code; everything else has the reply to one run of the module as its
result.  For a line that is refused nothing happens: no module is run, and every backend answers it
in the same way.  For any other the module that it names is run exactly once, if there is one, with
the arguments, the directory and the standard input of the request, and nothing else is set going;
every backend on which this run comes to the same answers it in the same way. -/
theorem serve_classifies (b : InProcess) {input : Bytes} {before after : List Bytes}
    (hc : Cut input (before ++ line :: after))
    (hbefore : ∀ l ∈ before, ∀ q, Asks l q → q.method ≠ Wire.methodExit) (h : Asks line r)
    (hid : r.id = some id) (hm : r.method ≠ Wire.methodExit) :
    ∃ response out,
      (serve b input).value =
        before.flatMap (fun l => (serve b l).value) ++ out :: (serveLines b after).value ∧
      (serve b line).value = [out] ∧
      Wire.encodeLine Wire.Response.schema response = .ok out ∧ response.id = id ∧
      Classified b r response ∧
      (response.error.isSome = true →
        (serve b line).events = [] ∧ ∀ b', serve b' line = serve b line) ∧
      ∀ p, Runs r p →
        (serve b line).deeds = ((moduleRun b p).toList.map fun _ => moduleDeed b p) ∧
        ∀ b', moduleRun b' p = moduleRun b p → serve b' line = serve b line := by
  have hopen : ∀ l ∈ before, stops l = false := fun l hl => Bool.eq_false_iff.2 fun hs => by
    obtain ⟨q, hq, hexit⟩ := stops_iff.1 hs
    exact hbefore l hl q hq hexit
  have hline : Line.ofBytes line = .request r := by rw [ofBytes_of_asks h, if_neg hm]
  have hstops : stops line = false := by
    rw [stops, hline]
    rfl
  have hlines : inputLines line = [line] := hc.inputLines_of_mem (by simp)
  have houtput (l : Bytes) (hl : l ∈ before) : output b l = (serve b l).value :=
    (serve_line b hc (List.mem_append_left _ hl) (hopen l hl)).symm
  have hown : output b line = (serve b line).value := (serve_line b hc (by simp) hstops).symm
  have hinput : (serve b input).value =
      before.flatMap (fun l => (serve b l).value) ++ (serve b line).value ++
        (serveLines b after).value := by
    rw [serve, ← hc.eq_inputLines, serveLines_append b hopen, serveLines_cons, hstops, hown,
      List.flatMap_congr houtput]
    simp
  obtain ⟨response, hresponse, hown', hclass, hrefusal⟩ : ∃ response,
      (serve b line).value = responseLine response ∧ response.id = id ∧ Classified b r response ∧
        (response.error.isSome = true →
          (serve b line).events = [] ∧ ∀ b', serve b' line = serve b line) := by
    obtain ⟨e, he⟩ | ⟨p, hp⟩ := refused_or_runs r
    · have hserve (b : InProcess) := serve_of_refused b hlines hline hid he
      exact ⟨.failure id e, by rw [hserve b]; rfl, rfl, classified_failure b id he,
        fun _ => ⟨by rw [hserve b]; rfl, fun b' => by rw [hserve b', hserve b]⟩⟩
    · obtain ⟨reply, hreply, hserve⟩ := serve_of_runs b hlines hline hid hp
      have hclass := classified_success id hp hreply
      obtain ⟨_, _, -, -, -, -, hresult⟩ := hclass.reply p hp
      refine ⟨responseTo id (.ok reply), by rw [hserve], responseTo_id id _, hclass, fun he => ?_⟩
      have hone := hclass.one
      rw [he, hresult] at hone
      contradiction
  obtain ⟨out, hout, -⟩ := Wire.exists_encodeLine_response response
  have halone : (serve b line).value = [out] := by rw [hresponse, responseLine, hout]
  refine ⟨response, out, ?_, halone, hout, hown', hclass, hrefusal, fun p hp => ⟨?_, ?_⟩⟩
  · rw [hinput, halone, List.append_assoc, List.singleton_append]
  · exact deeds_serve b hlines hline hid hp
  · exact fun b' hrun => serve_eq_of_moduleRun_eq hlines hline hid hp hrun

/-- A backend with a module that breaks down when it has written something. -/
def halfBackend : InProcess :=
  ⟨⟨[Script.module_ "half" [.out "half", .fail (.breakdown none)]]⟩, [Path.ofString "/lib"]⟩

/-- The parameters of a request for this module. -/
def halfParams : Wire.RunParams := ⟨"half", ["x"], true, Path.ofString "/", none, none⟩

/-- The same as JSON. -/
def halfJson : Json :=
  .object [("module", .text "half"), ("argv", .texts ["x"]), ("useStdin", .bool true),
    ("cwd", .text "/")]

/-- The line of the request. -/
def halfLine : Bytes :=
  Utf8.encode ((Wire.requestJson 7 Wire.methodRun halfJson).compact ++ "\n")

theorem asks_halfLine : Asks halfLine (.make (some (.int 7)) Wire.methodRun halfJson) := by
  refine ⟨_, rfl, Wire.parse_request (n := 7) (by decide) (.object (by simp) ?_)⟩
  simp only [List.forall_mem_cons]
  exact ⟨.text _, .array (List.forall_mem_singleton.2 (.text _)), .bool _, .text _, by simp⟩

/-- The module is run once, with its name at the head of the arguments, and its fault is the
result. -/
theorem serve_classifies_half :
    (serve halfBackend halfLine).deeds =
      [.run ["half", "x"] (Path.ofString "/") (some "")] ∧
    ∃ response out, (serve halfBackend halfLine).value = [out] ∧
      Wire.encodeLine Wire.Response.schema response = .ok out ∧ response.error = none ∧
      ∃ reply result, Wire.RunReply.schema.encode reply = .ok result ∧
        response.result = some result ∧ reply.exception.isSome = true ∧ reply.stdout = "" := by
  have hcut : Cut halfLine ([] ++ halfLine :: []) := by
    have hlines : inputLines halfLine = [halfLine] := inputLines_encode (Wire.noControl_compact _)
    have hcut := cut_inputLines halfLine
    rwa [hlines] at hcut
  obtain ⟨response, out, -, hout, hencode, -, hclass, -, hruns⟩ :=
    serve_classifies halfBackend hcut nofun asks_halfLine rfl (by decide)
  have hdeeds := (hruns halfParams ⟨rfl, rfl, rfl⟩).1
  obtain ⟨reply, result, -, hfault, hempty, hreply, hresult⟩ :=
    hclass.reply halfParams ⟨rfl, rfl, rfl⟩
  have hexception : reply.exception.isSome = true := by
    rw [hfault]
    decide +kernel
  have hone := hclass.one
  rw [hresult] at hone
  have hcall : ((moduleRun halfBackend halfParams).toList.map fun _ =>
      moduleDeed halfBackend halfParams) = [.run ["half", "x"] (Path.ofString "/") (some "")] := by
    decide +kernel
  refine ⟨hdeeds.trans hcall, response, out, hout, hencode, ?_, reply, result, hreply, hresult,
    hexception, (hempty hexception).1⟩
  simpa using hone

end Runner

end ToolRelay
