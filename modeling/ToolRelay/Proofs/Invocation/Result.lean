import ToolRelay.Invocation.Direct
import ToolRelay.Proofs.Invocation.InProcess
import ToolRelay.Proofs.Remote.Exchange

/-!
# What the ways of running a tool give

A run that failed gives its failure and nothing else (`InvocationResult.failed`).  Otherwise a
process gives what it has written and its exit code, and a module only what it has written.  Without
a time limit the program may wait for ever, and then there is no result.

* `Direct.outcome_eq_pending_iff` : when there is no end to waiting for a process;
* `Direct.invoke_cases` : a process, in all the ways in which it can fail;
* `Remote.Pool.invoke_result_cases` : a module in a runner;
* `InProcess.invoke_result` : a module in this program, where a fault is no result.
-/

namespace ToolRelay

namespace InvocationResult

@[simp]
theorem failure_failed (f : Failure) : (failed f).failure = some f := rfl

@[simp]
theorem exitCode_failed (f : Failure) : (failed f).exitCode = none := rfl

@[simp]
theorem exitCode_ofOutput (stdout stderr : String) : (ofOutput stdout stderr).exitCode = none := rfl

theorem failed_ne_pending (f : Failure) : failed f ≠ pending := nofun

end InvocationResult

namespace Direct

variable {program : String} {args : List String} {timeoutMs : Nat} {c : Course} {exit : Exit}
  {host : Host} {i : Invocation}

/-- There is an end to waiting for a process: there is a time limit; or the system refuses to say
whether the process has ended, before it has; or the process ends and so does what comes from it, or
the system refuses to read that. -/
def Concludes (timeoutMs : Nat) (c : Course) : Prop :=
  timeoutMs ≠ 0 ∨
  (∃ moment refusal, c.waitRefusal = some (moment, refusal) ∧ ∀ e ∈ c.ending, moment < e.1) ∨
  c.ending.isSome = true ∧
    (c.readRefusal.isSome = true ∨ c.outputEnd.isSome = true ∧ c.errorsEnd.isSome = true)

theorem inTime_zero (moment : Option Moment) : inTime 0 moment = moment.isSome := by
  cases moment <;> rfl

theorem overdue_eq_pending_iff : overdue program timeoutMs = .pending ↔ timeoutMs = 0 := by
  unfold overdue
  split_ifs with h
  · exact iff_of_true rfl h
  · exact iff_of_false (InvocationResult.failed_ne_pending _) h

/-- Whoever is overdue has failed, or there is no limit. -/
theorem overdue_cases (program : String) (timeoutMs : Nat) :
    (∃ f, overdue program timeoutMs = .failed f) ∨ overdue program timeoutMs = .pending := by
  unfold overdue
  split_ifs
  · exact .inr rfl
  · exact .inl ⟨_, rfl⟩

theorem waitRefusal?_zero :
    (waitRefusal? 0 c).isSome = true ↔
      ∃ moment refusal, c.waitRefusal = some (moment, refusal) ∧ ∀ e ∈ c.ending, moment < e.1 := by
  rw [waitRefusal?]
  cases hw : c.waitRefusal with
  | none => simp
  | some refused =>
    obtain ⟨moment, refusal⟩ := refused
    cases c.ending <;> simp [inTime_zero]

theorem captured_eq_pending_iff :
    captured program timeoutMs c exit = .pending ↔
      timeoutMs = 0 ∧ ¬ (c.readRefusal.isSome = true ∨
        c.outputEnd.isSome = true ∧ c.errorsEnd.isSome = true) := by
  rw [captured]
  cases hr : c.readRefusal with
  | some refused =>
    obtain ⟨moment, refusal⟩ := refused
    refine iff_of_false ?_ (by simp)
    dsimp only
    split_ifs with h
    · exact InvocationResult.failed_ne_pending _
    · rw [overdue_eq_pending_iff]
      rintro rfl
      exact h rfl
  | none =>
    dsimp only
    split_ifs with h
    · -- the pipes are closed in time, so there is a result
      refine iff_of_false ?_ ?_
      · cases writeRefusal? c with
        | some refusal => exact InvocationResult.failed_ne_pending _
        | none => exact fun h => nomatch congrArg InvocationResult.exitCode h
      · rintro ⟨rfl, hopen⟩
        rw [inTime_zero, inTime_zero, Bool.and_eq_true] at h
        exact hopen (.inr h)
    · rw [overdue_eq_pending_iff, iff_self_and]
      rintro rfl
      rw [inTime_zero, inTime_zero, Bool.and_eq_true] at h
      simpa using h

/-- **When there is no end to waiting for a process.** -/
theorem outcome_eq_pending_iff :
    outcome program timeoutMs c = .pending ↔ ¬Concludes timeoutMs c := by
  rw [outcome, Concludes]
  by_cases hzero : timeoutMs = 0
  · subst hzero
    rw [← waitRefusal?_zero]
    cases hw : waitRefusal? 0 c with
    | some refusal => exact iff_of_false (InvocationResult.failed_ne_pending _) (by simp)
    | none =>
      cases he : c.ending with
      | none => exact iff_of_true rfl (by simp)
      | some ending => simp [inTime_zero, captured_eq_pending_iff]
  · refine iff_of_false ?_ (not_not_intro (.inl hzero))
    have hover : overdue program timeoutMs ≠ .pending := mt overdue_eq_pending_iff.1 hzero
    split
    · exact InvocationResult.failed_ne_pending _
    · split
      · exact hover
      · split_ifs
        · exact fun h => hzero (captured_eq_pending_iff.1 h).1
        · exact hover

theorem captured_cases (program : String) (timeoutMs : Nat) (c : Course) (exit : Exit) :
    (∃ f, captured program timeoutMs c exit = .failed f) ∨
    captured program timeoutMs c exit =
      ⟨written c.output, written c.errors, none, some (exitNumber exit)⟩ ∨
    captured program timeoutMs c exit = .pending := by
  have hover := overdue_cases program timeoutMs
  unfold captured
  split
  -- the pipes cannot be read: the failure tells why, or that it came too late
  · split
    · exact .inl ⟨_, rfl⟩
    · exact hover.imp_right .inr
  · split
    · split
      · exact .inl ⟨_, rfl⟩
      · exact .inr (.inl rfl)
    · exact hover.imp_right .inr

theorem outcome_cases (program : String) (timeoutMs : Nat) (c : Course) :
    (∃ f, outcome program timeoutMs c = .failed f) ∨
    (∃ moment exit, c.ending = some (moment, exit) ∧ outcome program timeoutMs c =
      ⟨written c.output, written c.errors, none, some (exitNumber exit)⟩) ∨
    outcome program timeoutMs c = .pending := by
  have hover := overdue_cases program timeoutMs
  unfold outcome
  split
  · exact .inl ⟨_, rfl⟩
  · split
    · exact hover.imp_right .inr
    · rename_i moment exit hending
      split
      · exact (captured_cases program timeoutMs c exit).imp_right <|
          .imp_left fun h => ⟨moment, exit, hending, h⟩
      · exact hover.imp_right .inr

/-- There is an end to a run of a command line: it cannot be started, or there is an end to waiting
for its process. -/
def Ends (host : Host) (timeoutMs : Nat) (i : Invocation) : Prop :=
  ∀ program args process, i.argv = program :: args →
    host.start (command program args i.workingDir) = .ok process →
    Concludes timeoutMs (process.course (feeds i))

/-- A process fails, or it ends and gives what it has written and its exit code. -/
theorem invoke_cases (h : Ends host timeoutMs i) :
    (∃ f, invoke host timeoutMs i = .failed f) ∨
      ∃ stdout stderr code, invoke host timeoutMs i = ⟨stdout, stderr, none, some code⟩ := by
  cases hargv : i.argv with
  | nil => exact .inl ⟨_, invoke_of_nil hargv⟩
  | cons program args =>
    cases hs : host.start (command program args i.workingDir) with
    | error refusal => exact .inl ⟨_, invoke_of_refusal hargv hs⟩
    | ok process =>
      rw [invoke_of_start hargv hs]
      obtain hf | ⟨moment, exit, -, ho⟩ | hp :=
        outcome_cases program timeoutMs (process.course (feeds i))
      · exact .inl hf
      · exact .inr ⟨_, _, _, ho⟩
      · exact absurd (h program args process hargv hs) (outcome_eq_pending_iff.1 hp)

end Direct

namespace Remote

namespace Pool

theorem resultOf_cases (reply : Wire.RunReply) :
    (∃ f, resultOf reply = .failed f) ∨ resultOf reply = .ofOutput reply.stdout reply.stderr := by
  unfold resultOf
  split
  · exact .inr rfl
  · exact .inl ⟨_, rfl⟩

/-- A module in a runner fails, or it gives what it has written, which is nothing as long as the
program waits for it. -/
theorem invoke_result_cases (host : Host) (p : Pool) (t : Target) (i : Invocation) :
    (∃ f, (p.invoke host t i).1 = .failed f) ∨
      ∃ stdout stderr, (p.invoke host t i).1 = .ofOutput stdout stderr := by
  obtain ⟨e, -, -, he⟩ | ⟨c, c', -, ⟨e, -, he⟩ | ⟨reply, -, he⟩ | ⟨-, he⟩⟩ :=
    p.invoke_cases host t i
  · exact .inl ⟨_, congrArg Prod.fst he⟩
  · exact .inl ⟨_, congrArg Prod.fst he⟩
  · rw [he]
    rcases resultOf_cases reply with h | h
    · exact .inl h
    · exact .inr ⟨_, _, h⟩
  · exact .inr ⟨"", "", congrArg Prod.fst he⟩

end Pool

end Remote

namespace InProcess

/-- A module in this program that gives a result has not failed. -/
theorem invoke_result {b : InProcess} {i : Invocation} {r : InvocationResult}
    (h : (b.invoke i).1 = .ok r) : ∃ stdout stderr, r = .ofOutput stdout stderr := by
  have hends := b.ends_invoke i
  rw [h] at hends
  cases hends with
  | output => exact ⟨_, _, rfl⟩

end InProcess

end ToolRelay
