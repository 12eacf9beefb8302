import ToolRelay.Module.Script
import ToolRelay.Proofs.Runner.Serve

/-!
# Runs of modules are kept apart

A backend takes calls one after another: invocations, and the requests of a runner.  A module is
any function of its `ModuleCall`, so it may leave the search path in any state, write anything, and
end with any fault.

* `InProcess.ends_invoke` : what an invocation comes to, in terms of what its module does when it
  begins with the search path of the backend and with nothing written;
* `InProcess.after_eq` : the backend is the same after every sequence of calls;
* `InProcess.calls_isolated` : so each call comes to what it comes to alone, and a call that ends
  with a fault gives nothing but the fault.
-/

namespace ToolRelay

namespace InProcess

/-! ### One call -/

/-- The call with which the module of an invocation begins. -/
def beginning (b : InProcess) (i : Invocation) : ModuleCall :=
  ⟨i.argv, i.workingDir, i.stdinText, b.searchPath, "", ""⟩

/-- What an invocation can come to. -/
inductive Ends (b : InProcess) (i : Invocation) : Except Failure InvocationResult → Prop where
  /-- No module is named. -/
  | unnamed (h : i.argv = []) : Ends b i (.error ⟨.moduleFault, "Empty argument vector", none⟩)
  /-- There is no module of the name. -/
  | unknown {name : String} (h : i.argv.head? = some name) (hm : b.registry.get? name = none) :
      Ends b i (.error ⟨.moduleFault, "No module named '" ++ name ++ "'", none⟩)
  /-- The module ends with a fault. -/
  | fault {name : String} {m : ToolModule} {fault : Fault} (h : i.argv.head? = some name)
      (hm : b.registry.get? name = some m) (hf : (m.run (b.beginning i)).fault = some fault) :
      Ends b i (.error ⟨.moduleFault, fault.message name, fault.cause⟩)
  /-- The module ends without a fault. -/
  | output {name : String} {m : ToolModule} (h : i.argv.head? = some name)
      (hm : b.registry.get? name = some m) (hf : (m.run (b.beginning i)).fault = none) :
      Ends b i (.ok (.ofOutput (m.run (b.beginning i)).stdout (m.run (b.beginning i)).stderr))

variable {b : InProcess} {i : Invocation} {f : Failure}

/-- **What an invocation comes to** follows from what its module does when it begins with the search
path of the backend and with nothing written. -/
theorem ends_invoke (b : InProcess) (i : Invocation) : Ends b i (b.invoke i).1 := by
  rw [invoke, conduct]
  split
  · rename_i h
    exact .unnamed h
  · rename_i name args h
    have hname : i.argv.head? = some name := by rw [h, List.head?_cons]
    split
    · rename_i hm
      exact .unknown hname hm
    · rename_i m hm
      simp only [withPath, ToolModule.conduct, Traced.value_bind, Traced.value_act,
        Traced.value_pure]
      split
      · rename_i hf
        exact .output hname hm hf
      · rename_i fault hf
        exact .fault hname hm hf

/-- Whatever goes wrong is a fault of the module. -/
theorem Ends.kind_eq (h : Ends b i (.error f)) : f.kind = .moduleFault := by
  cases h <;> rfl

/-! ### Calls one after another -/

/-- A call of a backend. -/
inductive Call where
  /-- A module is run. -/
  | invoke (i : Invocation)
  /-- A runner is asked to run a module. -/
  | run (p : Wire.RunParams)

/-- What a call gives back. -/
inductive Outcome where
  /-- The result of an invocation, or the fault. -/
  | result (r : Except Failure InvocationResult)
  /-- The reply of a runner. -/
  | reply (r : Wire.RunReply)
  deriving DecidableEq

namespace Call

/-- The invocation that a call makes. -/
def invocation : Call → Invocation
  | .invoke i => i
  | .run p => Runner.invocation p

/-- What a call gives back when its invocation has come to `r`. -/
def outcome (r : Except Failure InvocationResult) : Call → Outcome
  | .invoke _ => .result r
  | .run _ => .reply (Runner.replyOf r)

/-- What a call gives back when its invocation has failed: nothing but the failure. -/
def faulted (f : Failure) : Call → Outcome
  | .invoke _ => .result (.error f)
  | .run _ => .reply ⟨"", "", some f.report⟩

theorem outcome_error (call : Call) : call.outcome (.error f) = call.faulted f := by
  cases call <;> rfl

end Call

/-- What a call gives back, and the backend after it. -/
def perform (b : InProcess) : Call → Outcome × InProcess
  | .invoke i =>
    let (r, b) := b.invoke i
    (.result r, b)
  | .run p =>
    let (reply, b) := (Runner.run b p).value
    (.reply reply, b)

/-- The backend after calls, one after another. -/
def after (b : InProcess) : List Call → InProcess
  | [] => b
  | call :: rest => (b.perform call).2.after rest

/-- What calls give back, one after another. -/
def outcomes (b : InProcess) : List Call → List Outcome
  | [] => []
  | call :: rest => (b.perform call).1 :: (b.perform call).2.outcomes rest

theorem perform_backend (b : InProcess) (call : Call) : (b.perform call).2 = b := by
  cases call with
  | invoke i => exact b.invoke_backend i
  | run p => exact Runner.run_backend b p

theorem perform_outcome (b : InProcess) (call : Call) :
    (b.perform call).1 = call.outcome (b.invoke call.invocation).1 := by
  cases call with
  | invoke i => rfl
  | run p => exact congrArg Outcome.reply (Runner.run_eq b p)

/-- **The backend is the same after every sequence of calls**, and so is its search path. -/
theorem after_eq (b : InProcess) (calls : List Call) : b.after calls = b := by
  induction calls with
  | nil => rfl
  | cons call rest ih => rw [after, perform_backend, ih]

theorem outcomes_eq (b : InProcess) (calls : List Call) :
    b.outcomes calls = calls.map fun call => (b.perform call).1 := by
  induction calls with
  | nil => rfl
  | cons call rest ih => rw [outcomes, perform_backend, ih, List.map_cons]

/-- **Runs of modules are kept apart**, in every sequence of calls and whatever the modules do.
After each call the search path is what it was at the beginning.  Each call gives back what it
gives back on a backend that has not been used: its module begins with the search path of the
beginning and with nothing written, and what this leads to decides the outcome.  A call that goes
wrong gives back a fault of the module and nothing of what has been written before it. -/
theorem calls_isolated (b : InProcess) (calls : List Call) :
    (∀ past later, calls = past ++ later → (b.after past).searchPath = b.searchPath) ∧
    b.outcomes calls = calls.map (fun call => (b.perform call).1) ∧
    ∀ past call later, calls = past ++ call :: later →
      (b.after past).perform call = b.perform call ∧
      ∃ r, Ends b call.invocation r ∧ (b.perform call).1 = call.outcome r ∧
        ∀ f, r = .error f → f.kind = .moduleFault ∧ (b.perform call).1 = call.faulted f := by
  refine ⟨fun past _ _ => by rw [after_eq], outcomes_eq b calls, ?_⟩
  intro past call later _
  have hr := perform_outcome b call
  have hends := b.ends_invoke call.invocation
  refine ⟨by rw [after_eq], _, hends, hr, ?_⟩
  intro f hf
  rw [hf] at hends hr
  exact ⟨hends.kind_eq, hr.trans call.outcome_error⟩

/-- A module that has written something and emptied the search path breaks down, and nothing of
this is seen, neither in its own outcome nor by the module after it. -/
example :
    let half := Script.module_ "half" [.out "half", .clearPath, .fail (.breakdown none)]
    let b : InProcess := ⟨⟨[half, Script.module_ "show" [.showPath]]⟩, [Path.ofString "/lib"]⟩
    let ask (name : String) : Wire.RunParams := ⟨name, [], false, Path.ofString "/", none, none⟩
    b.outcomes [.run (ask "half"), .run (ask "show")] =
      [.reply ⟨"", "", some ("tool raised an exception: Module 'half' panicked: " ++
          "unknown panic payload")⟩,
        .reply ⟨"[\"/lib\"]", "", none⟩] := by
  decide +kernel

end InProcess

end ToolRelay
