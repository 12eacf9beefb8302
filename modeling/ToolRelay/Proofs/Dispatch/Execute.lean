import ToolRelay.Proofs.Invocation.Deed
import ToolRelay.Proofs.Invocation.Result

/-!
# Executing a run

A dispatcher is built once and then used for anything in any order (`Dispatcher.acts`); its tool,
its channel, its modules and the program it belongs to stay the same (`Dispatcher.fixed_acts`).

* `Dispatcher.Ends` : there is an end to a run, which may fail to have one without a time limit;
* `Dispatcher.perform_cases` : the three ways of running a tool come down to one kind of result;
* `Dispatcher.execute_events` : all that is said about a run and set going for it, in order;
* `Dispatcher.execute_reports` : the law of an execution, at any moment of the life of a dispatcher.
-/

namespace ToolRelay

/-! ### Levels -/

namespace NotificationLevel

theorem rank_max (a b : NotificationLevel) : (a.max b).rank = Nat.max a.rank b.rank := by
  cases a <;> cases b <;> rfl

end NotificationLevel

theorem MessageLevel.isRaised_error_iff {level : NotificationLevel} :
    MessageLevel.error.isRaised level = true ↔ level ≠ .off := by
  cases level <;> decide

namespace Dispatcher

/-! ### The life of a dispatcher -/

/-- What is done with a dispatcher. -/
inductive Action where
  /-- A session is opened. -/
  | setUp (global : GlobalSettings) (entries : Option (List WorkspaceEntry))
  /-- The configuration is changed. -/
  | replace (entries : Option (List WorkspaceEntry))
  /-- The tool is run on a document. -/
  | document (document : Document) (useStdin : Bool) (extra : List String)
  /-- The tool is run without a document. -/
  | global (extra : List String)
  /-- A prepared run is executed. -/
  | execute (p : Prepared) (label : String)
  /-- All runners are stopped. -/
  | shutdown

/-- The dispatcher after an action. -/
def act (host : Host) (d : Dispatcher) : Action → Dispatcher
  | .setUp global entries => (d.setUp host global entries).value
  | .replace entries => (d.replace host entries).value
  | .document document useStdin extra => (d.runDocument host document useStdin extra).value.2
  | .global extra => (d.runGlobal host extra).value.2
  | .execute p label => (d.execute host p label).value.2
  | .shutdown => d.shutdown

/-- The dispatcher after actions, one after another; each finds the outside world in a state of its
own. -/
def acts (d : Dispatcher) : List (Host × Action) → Dispatcher
  | [] => d
  | (host, a) :: rest => (d.act host a).acts rest

/-- What no action changes: the tool, the channel, the program that runs now and the modules. -/
def fixed (d : Dispatcher) : ToolSpec × OutputChannel × Path × InProcess :=
  (d.tool, d.output, d.store.runtime, d.modules)

theorem fixed_perform (host : Host) (d : Dispatcher) (p : Prepared) :
    (d.perform host p).2.fixed = d.fixed := by
  cases hs : p.strategy with
  | direct => rw [perform_direct hs]
  | remote =>
    rw [perform_remote hs]
    rfl
  | inProcess =>
    -- a module may change the search path, but it is put back
    rw [perform_inProcess hs, d.modules.invoke_backend]

theorem execute_dispatcher (host : Host) (d : Dispatcher) (p : Prepared) (label : String) :
    (d.execute host p label).value = d.perform host p := by
  simp only [execute, perform, Traced.value_bind]
  rcases (d.conduct host p).value with ⟨_ | _, _⟩ <;> rfl

theorem fixed_act (host : Host) (d : Dispatcher) (a : Action) : (d.act host a).fixed = d.fixed := by
  have hexecute (p : Prepared) (label : String) :
      (d.execute host p label).value.2.fixed = d.fixed := by
    rw [execute_dispatcher, fixed_perform]
  cases a with
  | setUp global entries => rfl
  | replace entries => rfl
  | document document useStdin extra =>
    rw [act, runDocument, Traced.value_bind]
    split
    · rfl
    · exact hexecute _ _
  | global extra => exact hexecute _ _
  | execute p label => exact hexecute p label
  | shutdown => rfl

theorem fixed_acts (d : Dispatcher) (as : List (Host × Action)) : (d.acts as).fixed = d.fixed := by
  induction as generalizing d with
  | nil => rfl
  | cons first rest ih => rw [acts, ih, fixed_act]

/-! ### Results -/

variable {host : Host} {d : Dispatcher} {p : Prepared} {r : InvocationResult} {f : Failure}

/-- There is an end to a run.  A tool that is started, or a runner, may keep the program waiting for
ever if there is no time limit, and a runner also if it does not read. -/
def Ends (host : Host) (d : Dispatcher) (p : Prepared) : Prop :=
  match p.strategy with
  | .direct => Direct.Ends host d.tool.timeoutMs p.request
  | .remote => ¬ d.pool.Waits host (target d.tool p.record) p.request
  | .inProcess => True

/-- **What a run gives**: a failure and nothing else, or what was written, with an exit code if it
was written by a process. -/
theorem perform_cases (hend : d.Ends host p) (h : (d.perform host p).1 = .ok r) :
    (∃ f, r = .failed f) ∨
    (p.strategy = .direct ∧ ∃ stdout stderr code, r = ⟨stdout, stderr, none, some code⟩) ∨
    (p.strategy ≠ .direct ∧ ∃ stdout stderr, r = .ofOutput stdout stderr) := by
  unfold Ends at hend
  cases hs : p.strategy with
  | direct =>
    rw [perform_direct hs] at h
    rw [hs] at hend
    obtain rfl := Except.ok.inj h
    rcases Direct.invoke_cases hend with hf | ho
    · exact .inl hf
    · exact .inr (.inl ⟨rfl, ho⟩)
  | remote =>
    rw [perform_remote hs] at h
    obtain rfl := Except.ok.inj h
    rcases d.pool.invoke_result_cases host (target d.tool p.record) p.request with hf | ho
    · exact .inl hf
    · exact .inr (.inr ⟨nofun, ho⟩)
  | inProcess =>
    rw [perform_inProcess hs] at h
    exact .inr (.inr ⟨nofun, InProcess.invoke_result h⟩)

theorem empty_of_failure (hend : d.Ends host p) (h : (d.perform host p).1 = .ok r)
    (hf : r.failure = some f) : r.stdout = "" ∧ r.stderr = "" ∧ r.exitCode = none := by
  obtain ⟨f', rfl⟩ | ⟨-, stdout, stderr, code, rfl⟩ | ⟨-, stdout, stderr, rfl⟩ :=
    perform_cases hend h
  · exact ⟨rfl, rfl, rfl⟩
  · contradiction
  · contradiction

theorem exitCode_iff (hend : d.Ends host p) (h : (d.perform host p).1 = .ok r) :
    r.exitCode.isSome = true ↔ p.strategy = .direct ∧ r.failure = none := by
  obtain ⟨f, rfl⟩ | ⟨hs, stdout, stderr, code, rfl⟩ | ⟨hs, stdout, stderr, rfl⟩ :=
    perform_cases hend h
  · simp
  · simp [hs]
  · simp [hs]

theorem perform_eq_error_iff :
    (d.perform host p).1 = .error f ↔
      p.strategy = .inProcess ∧ (d.modules.invoke p.request).1 = .error f := by
  cases hs : p.strategy with
  | direct => simp [perform_direct hs]
  | remote => simp [perform_remote hs]
  | inProcess => simp [perform_inProcess hs]

/-! ### Messages -/

/-- A line of the output log. -/
def logLine (text : String) : Event := .message ⟨.log, text, false⟩

/-- The report of a failure, which is raised as well unless the level is off. -/
def reportLines (level : NotificationLevel) (f : Failure) : List Event :=
  .message ⟨.error, f.report, false⟩ ::
    if level = .off then [] else [.message ⟨.error, f.report, true⟩]

/-- What is said after a run: the report of what went wrong, and, unless it is raised to the caller,
what the tool has written. -/
def aftermath (level : NotificationLevel) (label : String) :
    Except Failure InvocationResult → List Event
  | .error f => reportLines level f
  | .ok r =>
    r.failure.elim [] (reportLines level) ++ (if r.stderr = "" then [] else [logLine r.stderr]) ++
      [logLine (label ++ " :\r\n" ++ r.stdout)]

/-- What stands before the argument vector in the output log. -/
def commandPrefix (runtime : Path) (p : Prepared) : String :=
  match p.strategy with
  | .direct => ""
  | .remote => " ".intercalate p.record.interpreterPath ++ " -m "
  | .inProcess => runtime.display ++ " -m "

theorem shownCommand_eq (runtime : Path) (p : Prepared) :
    shownCommand runtime p = commandPrefix runtime p ++ " ".intercalate p.request.argv := by
  unfold shownCommand commandPrefix Invocation.commandLine
  cases p.strategy <;> simp

theorem events_log (output : OutputChannel) (text : String) :
    (output.log text).events = [logLine text] := rfl

theorem events_error (output : OutputChannel) (f : Failure) :
    (output.error f.report).events = reportLines output.notifications f := by
  unfold OutputChannel.error OutputChannel.emit reportLines
  by_cases h : output.notifications = .off
  · rw [h]
    rfl
  · rw [if_pos (MessageLevel.isRaised_error_iff.2 h), if_neg h]
    rfl

theorem events_showResult (output : OutputChannel) (label : String) (r : InvocationResult) :
    (showResult output label r).events = aftermath output.notifications label (.ok r) := by
  -- the report and the line for standard error may each be missing
  by_cases he : r.stderr = ""
  · cases hf : r.failure with
    | none => simp [showResult, aftermath, hf, he, events_log]
    | some f => simp [showResult, aftermath, hf, he, events_log, events_error]
  · cases hf : r.failure with
    | none => simp [showResult, aftermath, hf, he, events_log]
    | some f => simp [showResult, aftermath, hf, he, events_log, events_error]

/-- **All that is said about a run and set going for it**, in order: the command line, the working
directory, what the backend sets going, and what is said after it. -/
theorem execute_events (host : Host) (d : Dispatcher) (p : Prepared) (label : String) :
    (d.execute host p label).events =
      logLine (commandPrefix d.store.runtime p ++ " ".intercalate p.request.argv) ::
      logLine ("CWD Server: " ++ p.request.workingDir.display) ::
      ((d.deeds host p).map .deed ++
        aftermath (d.output.notifications.max p.record.notificationLevel) label
          (d.perform host p).1) := by
  have hlevel : (d.output.atLeast p.record.notificationLevel).notifications =
      d.output.notifications.max p.record.notificationLevel := rfl
  simp only [execute, perform, Traced.events_bind, events_log, events_conduct, shownCommand_eq,
    List.singleton_append]
  rcases (d.conduct host p).value with ⟨f | r, next⟩
  · simp only [Traced.events_bind, Traced.events_pure, events_error, hlevel, List.append_nil]
    rfl
  · simp only [Traced.events_bind, Traced.events_pure, events_showResult, hlevel, List.append_nil]

/-- **The law of an execution**, at any moment of the life of a dispatcher and for every run.  The
result is that of the one way of running the tool that the strategy names; a fault is raised to the
caller exactly if the strategy is to run the module in this program and the module ends with a
fault.  A result with a failure holds nothing else, and an exit code is that of a process without
a failure.  What happens, in this order: the command line is said, behind the words of the
interpreter or the program that runs now if a module is run; then the working directory; the one
backend sets going what there is to set going, and nothing else is; then the report of the failure
or the fault is said, if there is one, raised if the louder of the levels of the environment and of
the settings is not off; and, if there is a result, what the tool has written to standard error, if
anything, and the label with what it has written to standard output. -/
theorem execute_reports (s : Setup) (opening : Host) (as : List (Host × Action)) (host : Host)
    (p : Prepared) (label : String) (hend : ((s.build opening).value.acts as).Ends host p) :
    let d := (s.build opening).value.acts as
    let modules : InProcess := ⟨s.registry, s.searchPath⟩
    let run := d.execute host p label
    let level := s.environment.showNotifications.max p.record.notificationLevel
    (match p.strategy with
      | .direct => run.value.1 = .ok (Direct.invoke host s.tool.timeoutMs p.request)
      | .remote => run.value.1 = .ok (d.pool.invoke host (target s.tool p.record) p.request).1
      | .inProcess => run.value.1 = (modules.invoke p.request).1) ∧
    (∀ f, run.value.1 = .error f ↔
      p.strategy = .inProcess ∧ (modules.invoke p.request).1 = .error f) ∧
    (∀ r, run.value.1 = .ok r →
      (∀ f, r.failure = some f → r.stdout = "" ∧ r.stderr = "" ∧ r.exitCode = none) ∧
      (r.exitCode.isSome = true ↔ p.strategy = .direct ∧ r.failure = none)) ∧
    level.rank = max s.environment.showNotifications.rank p.record.notificationLevel.rank ∧
    run.events =
      logLine (commandPrefix s.runtime p ++ " ".intercalate p.request.argv) ::
      logLine ("CWD Server: " ++ p.request.workingDir.display) ::
      ((d.deeds host p).map .deed ++ aftermath level label run.value.1) ∧
    (d.deeds host p).length ≤ 1 := by
  intro d modules run level
  have hfixed : d.fixed =
      (s.tool, ⟨s.environment.showNotifications⟩, s.runtime, modules) :=
    fixed_acts (s.build opening).value as
  simp only [fixed, Prod.mk.injEq] at hfixed
  obtain ⟨htool, houtput, hruntime, hmodules⟩ := hfixed
  have hvalue : run.value = d.perform host p := execute_dispatcher host d p label
  refine ⟨?_, ?_, ?_, NotificationLevel.rank_max _ _, ?_, d.length_deeds_le host p⟩
  · rw [hvalue, perform, conduct, htool, hmodules]
    cases p.strategy <;> rfl
  · intro f
    rw [hvalue, perform_eq_error_iff, hmodules]
  · intro r hr
    rw [hvalue] at hr
    exact ⟨fun f => empty_of_failure hend hr, exitCode_iff hend hr⟩
  · rw [hvalue, execute_events, hruntime, houtput]

/-- A process that says something on both pipes and ends with an exit code. -/
def complaining : Process where
  course _ := ⟨[(1, Utf8.encode "1 problem")], [(2, Utf8.encode "done")], some 3, some 3,
    some (3, .code 1), none, none, .complete 0⟩

/-- A host on which every command is this process. -/
def complainingHost : Host where
  currentDir := .ok (Path.ofString "/w")
  readFile _ := .error .notFound
  kind? _ := none
  start _ := .ok complaining

/-- A setup without a time limit. -/
def patientSetup : Setup :=
  ⟨{ ToolSpec.standard with timeoutMs := 0 }, .empty, ⟨.standard, .off, []⟩, ⟨[]⟩, [],
    Path.ofString "/bin/relay"⟩

/-- A run of a tool by its path. -/
def lintRun : Prepared :=
  ⟨.direct, .ofGlobal patientSetup.runtime .empty (Path.ofString "/w"),
    ⟨["lint", "x"], true, Path.ofString "/w", some "text"⟩⟩

theorem ends_lintRun : ((patientSetup.build complainingHost).value.acts []).Ends complainingHost
    lintRun := by
  intro program args process hargv hstart
  obtain rfl := Except.ok.inj hstart
  exact .inr (.inr ⟨rfl, .inr ⟨rfl, rfl⟩⟩)

theorem execute_reports_complaining :
    let run := (patientSetup.build complainingHost).value.execute complainingHost lintRun "x.py"
    run.value.1 = .ok ⟨"1 problem", "done", none, some 1⟩ ∧
      run.events =
        [logLine "lint x", logLine "CWD Server: /w",
          .deed (.start ⟨"lint", ["x"], some (Path.ofString "/w"), []⟩), logLine "done",
          logLine "x.py :\r\n1 problem"] := by
  intro run
  obtain ⟨hinvoke, -, -, -, hevents, -⟩ :=
    execute_reports patientSetup complainingHost [] complainingHost lintRun "x.py" ends_lintRun
  exact ⟨hinvoke.trans (by decide +kernel), hevents.trans (by decide +kernel)⟩

end Dispatcher

end ToolRelay
