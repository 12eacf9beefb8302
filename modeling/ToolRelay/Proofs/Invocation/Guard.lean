import ToolRelay.Dispatch.Strategy
import ToolRelay.Proofs.Invocation.Result

/-!
# Runs with nothing to run

Each way of running a tool refuses a run that lacks what it needs: a command line, the command line
of an interpreter, or the name of a module.  The refusal (`Strategy.refusal`) can be told from every
other failure, so a result tells whether that was what went wrong.

* `Direct.invoke_eq_refusal_iff`, `InProcess.invoke_eq_refusal_iff` : there is no argument vector;
* `Remote.Pool.invoke_eq_refusal_iff` : a runner is to be started, and there is no interpreter.
-/

namespace ToolRelay

/-- What a way of running gives when it lacks what it needs. -/
def Strategy.refusal : Strategy → Except Failure InvocationResult
  | .direct => .ok (.failed ⟨.executableNotFound, "Empty command", none⟩)
  | .remote => .ok (.failed ⟨.transport, Remote.TransportError.noInterpreter.message, none⟩)
  | .inProcess => .error ⟨.moduleFault, "Empty argument vector", none⟩

namespace Direct

variable {program : String} {timeoutMs : Nat} {c : Course} {exit : Exit} {f : Failure}

theorem kind_overdue (h : (overdue program timeoutMs).failure = some f) :
    f.kind = .processFailed := by
  unfold overdue at h
  split at h <;> cases h
  rfl

theorem kind_captured (h : (captured program timeoutMs c exit).failure = some f) :
    f.kind = .processFailed := by
  unfold captured at h
  split at h
  · split at h
    · cases h
      rfl
    · exact kind_overdue h
  · split at h
    · split at h <;> cases h
      rfl
    · exact kind_overdue h

/-- A process that has been started does not fail for want of an executable. -/
theorem kind_outcome (h : (outcome program timeoutMs c).failure = some f) :
    f.kind = .processFailed := by
  unfold outcome at h
  split at h
  · cases h
    rfl
  · split at h
    · exact kind_overdue h
    · split at h
      · exact kind_captured h
      · exact kind_overdue h

theorem invoke_eq_refusal_iff {host : Host} {i : Invocation} :
    .ok (invoke host timeoutMs i) = Strategy.refusal .direct ↔ i.argv = [] := by
  rw [Strategy.refusal, Except.ok.injEq]
  cases h : i.argv with
  | nil => exact iff_of_true (invoke_of_nil h) rfl
  | cons program args =>
    refine iff_of_false ?_ (List.cons_ne_nil _ _)
    cases hs : host.start (command program args i.workingDir) with
    | error refusal =>
      -- a start that fails tells why
      simp [invoke_of_refusal h hs, InvocationResult.failed]
    | ok process =>
      rw [invoke_of_start h hs]
      intro hf
      have hkind := kind_outcome (congrArg InvocationResult.failure hf)
      contradiction

end Direct

namespace InProcess

theorem ne_nil_of_head? {argv : List String} {name : String} (h : argv.head? = some name) :
    argv ≠ [] := by
  rintro rfl
  contradiction

theorem invoke_eq_refusal_iff {b : InProcess} {i : Invocation} :
    (b.invoke i).1 = Strategy.refusal .inProcess ↔ i.argv = [] := by
  have hends := b.ends_invoke i
  rw [Strategy.refusal]
  generalize (b.invoke i).1 = r at hends
  cases hends with
  | unnamed h => exact iff_of_true rfl h
  | unknown h | output h =>
    exact iff_of_false (by simp [← String.toList_inj]) (ne_nil_of_head? h)
  | @fault name m fault h =>
    refine iff_of_false ?_ (ne_nil_of_head? h)
    cases fault with
    -- an error tells its story, and a breakdown names the module
    | error summary causes => cases causes <;> simp [Fault.cause]
    | breakdown text => simp [Fault.message, ← String.toList_inj]

end InProcess

namespace Remote

theorem not_prefix_append {a : String} (b : String) {l : List Char} (h : ¬ a.toList <+: l) :
    ¬ (a ++ b).toList <+: l := by
  rw [String.toList_append]
  exact fun hp => h ((List.prefix_append _ _).trans hp)

/-- Only the want of an interpreter reads like that. -/
theorem TransportError.eq_noInterpreter {e : TransportError}
    (h : e.message = noInterpreter.message) : e = noInterpreter := by
  have hp : e.message.toList <+: noInterpreter.message.toList := h ▸ List.prefix_refl _
  -- the other messages begin in other ways
  cases e with
  | noInterpreter => rfl
  | closed => exact absurd h (by decide)
  | write | read | malformed => exact absurd hp (not_prefix_append _ (by decide))
  | timeout => exact absurd hp (not_prefix_append _ (not_prefix_append _ (by decide)))
  | start | foreignId | refused =>
    exact absurd hp
      (not_prefix_append _ (not_prefix_append _ (not_prefix_append _ (by decide))))

namespace Conversation

variable {c : Conversation} {timeoutMs : Nat}

theorem send_ne_noInterpreter {line : String} :
    (c.send line).1 ≠ .error (.error .noInterpreter) := by
  unfold send
  dsimp only
  split <;> simp

/-- What comes from a runner says nothing about an interpreter. -/
theorem arrival_ne_noInterpreter {course : Course} {a : Arrival} (h : a ∈ arrivals course) :
    a.2 ≠ .error .noInterpreter := by
  rw [arrivals, List.mem_append, Option.mem_toList] at h
  obtain h | h := h
  · obtain ⟨line, -, rfl⟩ := List.mem_map.1 h
    simp
  · have hclosing : ∀ a ∈ course.outputEnd.map fun moment => (moment, Except.error .closed),
        (a : Arrival).2 ≠ .error .noInterpreter := by
      intro a ha
      obtain ⟨moment, -, rfl⟩ := Option.map_eq_some_iff.1 ha
      simp
    unfold lastArrival? at h
    split at h
    · exact hclosing a h
    · split at h
      · exact hclosing a h
      · cases h
        simp

theorem firstLine_ne_noInterpreter {limit : Option Moment} {as : List Arrival}
    (h : ∀ a ∈ as, a.2 ≠ .error .noInterpreter) :
    (c.firstLine timeoutMs limit as).1 ≠ .error (.error .noInterpreter) := by
  have hunanswered (c : Conversation) :
      (c.unanswered timeoutMs limit).1 ≠ .error (.error .noInterpreter) := by
    cases limit <;> simp [unanswered]
  fun_induction c.firstLine timeoutMs limit as with
  | case1 c => exact hunanswered c
  | case2 c moment arrival as hlate => exact hunanswered c
  | case3 c moment as hlate c' e =>
    have he := h _ List.mem_cons_self
    simpa using he
  | case4 => simp
  | case5 c moment as hlate c' octets s hd hb ih =>
    exact ih fun a ha => h a (List.mem_cons_of_mem _ ha)
  | case6 => simp

theorem receive_ne_noInterpreter : (c.receive timeoutMs).1 ≠ .error (.error .noInterpreter) :=
  firstLine_ne_noInterpreter fun _ ha => arrival_ne_noInterpreter (List.mem_of_mem_drop ha)

end Conversation

namespace Pool

variable {c : Conversation} {timeoutMs id : Nat} {t : Target} {i : Invocation}
  {e : TransportError}

theorem requestLine_ne_noInterpreter (h : requestLine id t i = .error e) :
    e ≠ .noInterpreter := by
  rw [requestLine] at h
  split at h <;> cases h
  simp

theorem replyIn_ne_noInterpreter {line : String} (h : replyIn id line = .error e) :
    e ≠ .noInterpreter := by
  rw [replyIn] at h
  split at h
  · cases h
    simp
  · split_ifs at h
    · cases h
      simp
    · split at h
      · cases h
        simp
      · cases h
        simp
      · split at h <;> cases h
        simp

/-- A request that fails does not fail for want of an interpreter. -/
theorem call_ne_noInterpreter :
    (call c timeoutMs id t i).1 ≠ .error (.error .noInterpreter) := by
  rw [call]
  cases hline : requestLine id t i with
  | error e => simpa using requestLine_ne_noInterpreter hline
  | ok line =>
    have hsend := @Conversation.send_ne_noInterpreter c line
    dsimp only
    rcases hs : c.send line with ⟨o | done, sent⟩
    · simpa [hs] using hsend
    · have hreceive := @Conversation.receive_ne_noInterpreter sent timeoutMs
      dsimp only
      rcases hr : sent.receive timeoutMs with ⟨o | answer, c'⟩
      · simpa [hr] using hreceive
      · cases hreply : replyIn id answer with
        | error e => simpa [Except.mapError, hreply] using replyIn_ne_noInterpreter hreply
        | ok reply => simp [Except.mapError, hreply]

theorem spawn_eq_noInterpreter_iff {host : Host} {p : Pool} {key : Key} :
    p.spawn host key = .error .noInterpreter ↔ key.interpreter = [] := by
  rw [spawn, launch]
  cases key.interpreter with
  | nil => exact iff_of_true rfl rfl
  | cons program args =>
    refine iff_of_false ?_ (List.cons_ne_nil _ _)
    simp only [Host.launch, Traced.value_bind, Traced.value_act]
    cases host.start (p.command host key program args) <;> simp

/-- Whoever has a runner did not lack an interpreter. -/
theorem not_lacking_of_runnerFor {host : Host} {p : Pool} {key : Key}
    (h : p.runnerFor host key = .ok c) : ¬ (p.find? key = none ∧ key.interpreter = []) := by
  rintro ⟨hf, hi⟩
  rw [runnerFor_of_none hf, spawn_eq_noInterpreter_iff.2 hi] at h
  contradiction

theorem invoke_eq_refusal_iff {host : Host} {p : Pool} :
    .ok (p.invoke host t i).1 = Strategy.refusal .remote ↔
      p.find? t.key = none ∧ t.interpreter = [] := by
  rw [Strategy.refusal, Except.ok.injEq]
  obtain ⟨e, hf, hs, he⟩ | ⟨c, c', hr, ⟨e, hc, he⟩ | ⟨reply, -, he⟩ | ⟨-, he⟩⟩ :=
    p.invoke_cases host t i
  · rw [he]
    constructor
    · intro hfailed
      obtain rfl : e = .noInterpreter := TransportError.eq_noInterpreter (by
        simpa [InvocationResult.failed] using hfailed)
      exact ⟨hf, spawn_eq_noInterpreter_iff.1 hs⟩
    · rintro ⟨-, hi⟩
      have hno : p.spawn host t.key = .error .noInterpreter := spawn_eq_noInterpreter_iff.2 hi
      rw [hs] at hno
      cases hno
      rfl
  · rw [he]
    refine iff_of_false (fun hfailed => ?_) (not_lacking_of_runnerFor hr)
    obtain rfl : e = .noInterpreter := TransportError.eq_noInterpreter (by
      simpa [InvocationResult.failed] using hfailed)
    exact call_ne_noInterpreter (congrArg Prod.fst hc)
  · rw [he]
    refine iff_of_false (fun hreply => ?_) (not_lacking_of_runnerFor hr)
    have hfailed := isTransport_failed TransportError.noInterpreter.message
    rw [← hreply] at hfailed
    exact not_isTransport_resultOf reply hfailed
  · rw [he]
    exact iff_of_false (InvocationResult.failed_ne_pending _).symm (not_lacking_of_runnerFor hr)

end Pool

end Remote

end ToolRelay
