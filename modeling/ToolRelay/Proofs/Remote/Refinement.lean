import ToolRelay.Proofs.Remote.Conversation
import ToolRelay.Remote.Pool

/-!
# Running a module in a runner is running it here

A module can run inside this program (`InProcess.invoke`) or in a runner (`Pool.invoke`).  The
second crosses two JSON texts, written and read on either side.

* `Pool.requestLine_eq`, `Pool.output_request`, `Pool.replyIn_response` : the three crossings, for
  every text in the invocation and in the result;
* `Pool.invoke_refines` : **a run in a runner refines a run inside this program.**  Nothing is
  lost but the search path of the other side, and the channel adds no failure of its own.
-/

namespace ToolRelay

open Json Runner

namespace Failure

theorem isBlankText_summary (f : Failure) : Text.isBlankText f.summary = false := by
  have hphrase : Text.isBlankText f.kind.phrase = false := by cases f.kind <;> decide
  rw [summary, String.append_assoc, Text.isBlankText_append, hphrase, Bool.false_and]

/-- A report says something. -/
theorem isBlankText_report (f : Failure) : Text.isBlankText f.report = false := by
  unfold report
  split
  · exact f.isBlankText_summary
  · rw [String.append_assoc, Text.isBlankText_append, f.isBlankText_summary, Bool.false_and]

end Failure

namespace Remote

namespace Pool

variable {n : Nat} {t : Target} {i : Invocation} {cwd : String}

/-- The parameters of a request as JSON, for the working directory `cwd`. -/
def paramsJson (t : Target) (i : Invocation) (cwd : String) : Json :=
  .object [("module", .text t.module), ("argv", .texts i.argv), ("useStdin", .bool i.useStdin),
    ("cwd", .text cwd), ("source", .option .text i.source),
    ("workspace", .text t.workspace.display)]

theorem encode_params (hcwd : i.workingDir.toString? = some cwd) :
    Wire.RunParams.schema.encode (params t i) = .ok (paramsJson t i cwd) :=
  Wire.RunParams.encode_eq hcwd

theorem decode_params (hcwd : i.workingDir.toString? = some cwd) :
    Wire.RunParams.schema.decode (paramsJson t i cwd) = .ok (params t i) :=
  Schema.decode_encode _ (Wire.RunParams.faithful _) (encode_params hcwd)

/-- The text of a request. -/
def requestText (n : Nat) (t : Target) (i : Invocation) (cwd : String) : String :=
  (Wire.requestJson n Wire.methodRun (paramsJson t i cwd)).compact

theorem requestLine_eq (hcwd : i.workingDir.toString? = some cwd) :
    requestLine n t i = .ok (requestText n t i cwd ++ "\n") := by
  rw [requestLine, encode_params hcwd]
  rfl

theorem asks_request (hn : n ≤ Reader.maxInt) :
    Asks (Utf8.encode (requestText n t i cwd ++ "\n"))
      (.make (some (.int n)) Wire.methodRun (paramsJson t i cwd)) :=
  ⟨_, rfl, Wire.parse_request hn (Wire.RunParams.plain (params t i) cwd 124)⟩

/-- The text of the response to a request. -/
def responseText (n : Nat) (reply : Wire.RunReply) : String :=
  (Wire.successJson (.int n) (.object [("stdout", .text reply.stdout),
    ("stderr", .text reply.stderr), ("exception", .option .text reply.exception)])).compact

theorem invocation_params (hm : i.argv.head? = some t.module) : invocation (params t i) = i := by
  rw [invocation, params, if_pos hm]

/-- A runner answers a request by what comes of running the module on its side. -/
theorem output_request (b : InProcess) (hn : n ≤ Reader.maxInt)
    (hm : i.argv.head? = some t.module) (hcwd : i.workingDir.toString? = some cwd) :
    output b (Utf8.encode (requestText n t i cwd ++ "\n")) =
      [responseText n (replyOf (b.invoke i).1) ++ "\n"] := by
  have hline := ofBytes_of_asks (@asks_request n t i cwd hn)
  rw [if_neg (by exact (by decide : Wire.methodRun ≠ Wire.methodExit))] at hline
  have hanswer : (answer b (.make (some (.int n)) Wire.methodRun (paramsJson t i cwd))).value.1 =
      .ok (replyOf (b.invoke i).1) := by
    rw [answer_of_decode b rfl rfl (decode_params hcwd), invocation_params hm]
  rw [output_of_request b hline rfl, hanswer, responseTo, Wire.RunReply.encode_eq]
  rfl

/-- The reply is found in the response, with or without blanks after it. -/
theorem replyIn_response (reply : Wire.RunReply) (hn : n ≤ Reader.maxInt) {s : List Char}
    (hs : ∀ c ∈ s, Reader.isBlank c = true) :
    replyIn n (responseText n reply ++ String.ofList s) = .ok reply := by
  have hid : Plain 127 (.int n) := .int (by omega) (by omega)
  rw [replyIn, responseText, Wire.parse_success hid (reply.plain 125) hs]
  have hdecode := Schema.decode_encode _ reply.faithful reply.encode_eq
  simp only [Wire.Response.success, isId, beq_self_eq_true, Bool.not_true, Bool.false_eq_true,
    ↓reduceIte, hdecode]

/-! ### The whole way -/

/-- The identity of a request is never too great for a runner to read it. -/
theorem toNat_le_maxInt (id : UInt64) : id.toNat ≤ Reader.maxInt := Nat.le_of_lt_succ id.toNat_lt

theorem inputLines_request :
    inputLines (Utf8.encode (requestText n t i cwd ++ "\n")) =
      [Utf8.encode (requestText n t i cwd ++ "\n")] :=
  inputLines_encode (Wire.noControl_compact _)

theorem stops_request (hn : n ≤ Reader.maxInt) :
    stops (Utf8.encode (requestText n t i cwd ++ "\n")) = false := by
  rw [Bool.eq_false_iff]
  intro h
  obtain ⟨r, hr, hm⟩ := stops_iff.1 h
  obtain rfl := hr.unique (asks_request hn)
  exact (by decide : Wire.methodRun ≠ Wire.methodExit) hm

theorem call_eq {b : InProcess} {c : Conversation} {timeoutMs : Nat} (hc : c.InSync b)
    (hs : c.process.Serves b timeoutMs) (hn : n ≤ Reader.maxInt)
    (hm : i.argv.head? = some t.module) (hcwd : i.workingDir.toString? = some cwd) :
    ∃ c', call c timeoutMs n t i = (.ok (replyOf (b.invoke i).1), c') ∧ c'.process = c.process ∧
      c'.InSync b := by
  obtain ⟨c₁, c₂, hsend, hreceive, hp, hsync⟩ := hc.exchange hs inputLines_request
    (stops_request hn) (output_request b hn hm hcwd) (Wire.isBlankText_compact _)
  have hreply := replyIn_response (replyOf (b.invoke i).1) hn (s := []) (by simp)
  rw [show String.ofList [] = "" from rfl, String.append_empty] at hreply
  refine ⟨c₂, ?_, hp, hsync⟩
  rw [call, requestLine_eq hcwd]
  simp only [hsend, hreceive, hreply]
  rfl

theorem agrees_self (key : Key) : key.agrees key = true := by
  simp [Key.agrees, Path.agrees]

theorem find?_keep (p : Pool) (key : Key) (c : Conversation) :
    (p.keep key c).find? key = some c := by
  simp [find?, keep, agrees_self]

/-- **Running a module in a runner is running it here.**  Whatever the module does, the runner
answers the request by one line, this line is understood, and the result is the one that the module
has inside this program; a fault is told by its report.  The channel adds no failure, and the
runner is ready for the next request. -/
theorem invoke_refines {host : Host} {p : Pool} {b : InProcess} {c : Conversation}
    (hm : i.argv.head? = some t.module) (hcwd : i.workingDir.toString? = some cwd)
    (hr : p.runnerFor host t.key = .ok c) (hs : c.process.Serves b p.timeoutMs)
    (hc : c.InSync b) :
    (∃ request answer, requestLine p.nextId.toNat t i = .ok request ∧
      (serve b (Utf8.encode request)).value = [answer] ∧
      replyIn p.nextId.toNat answer = .ok (replyOf (b.invoke i).1)) ∧
    (∀ r, (b.invoke i).1 = .ok r → (p.invoke host t i).1 = .ofOutput r.stdout r.stderr) ∧
    (∀ f, (b.invoke i).1 = .error f → ∃ summary, Text.firstFullLine? f.report = some summary ∧
      (p.invoke host t i).1 = .failed ⟨.moduleFault, summary, some f.report⟩) ∧
    (∀ f, (p.invoke host t i).1.failure = some f → f.kind ≠ .transport) ∧
    ∃ c', (p.invoke host t i).2.find? t.key = some c' ∧ c'.process = c.process ∧ c'.InSync b := by
  have hn : p.nextId.toNat ≤ Reader.maxInt := toNat_le_maxInt p.nextId
  obtain ⟨c', hcall, hp, hsync⟩ := call_eq (t := t) hc hs hn hm hcwd
  have hinvoke : p.invoke host t i = (resultOf (replyOf (b.invoke i).1),
      p.asked.keep t.key c') := by
    rw [invoke_eq, hr, complete]
    simp only [hcall]
  rw [hinvoke]
  refine ⟨⟨_, _, requestLine_eq hcwd, ?_,
      replyIn_response _ hn (s := ['\n']) (List.forall_mem_singleton.2 rfl)⟩,
    fun r h => ?_, fun f h => ?_, fun f h => ?_, c', find?_keep _ _ _, hp, hsync⟩
  -- one line goes in, so one comes out
  · rw [serve, inputLines_request, serveLines_cons, stops_request hn, if_neg (by decide),
      output_request b hn hm hcwd, serveLines]
    rfl
  · rw [h]; rfl
  · obtain ⟨summary, hf⟩ := Text.exists_firstFullLine? f.isBlankText_report
    refine ⟨summary, hf, ?_⟩
    rw [h, replyOf, resultOf]
    simp only [hf, Option.getD_some]
  · cases hb : (b.invoke i).1 with
    | ok r => rw [hb] at h; contradiction
    | error e =>
      rw [hb] at h
      obtain rfl := Option.some.inj h
      -- a report comes from the module, never from the channel
      show FailureKind.moduleFault ≠ .transport
      decide

/-- A backend with one module, which copies its input and forgets the search path. -/
def copying : InProcess where
  registry := ⟨[⟨"copy", fun call => ⟨call.stdin.getD "", "", [], none⟩⟩]⟩
  searchPath := [Path.ofString "/lib"]

/-- A host on which every command starts a runner with the backend `b`. -/
def hosting (b : InProcess) : Host where
  currentDir := .ok (Path.ofString "/")
  readFile _ := .error .notFound
  kind? _ := none
  start _ := .ok (.serving b)

theorem invoke_refines_copying :
    ((new ["runner"] 0).invoke (hosting copying)
      ⟨Path.ofString "/w", ["tool"], "copy", .bundled⟩
      ⟨["copy", "-x"], true, Path.ofString "/w", some "a\n\"é\"\t"⟩).1 =
      .ofOutput "a\n\"é\"\t" "" :=
  (@invoke_refines ⟨Path.ofString "/w", ["tool"], "copy", .bundled⟩
    ⟨["copy", "-x"], true, Path.ofString "/w", some "a\n\"é\"\t"⟩ "/w" (hosting copying)
    (new ["runner"] 0) copying (.start (.serving copying)) rfl
    (Utf8.decode?_encode "/w") rfl (Process.serving_serves copying 0)
    (Conversation.inSync_start _ _)).2.1 _ rfl

end Pool

end Remote

end ToolRelay
