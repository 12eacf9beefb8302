import ToolRelay.Dispatch.Dispatcher

/-!
# What a run sets going

A run sets at most one thing going, by the one backend that its strategy names: the system is asked
to start the tool or a runner, or a module is run in this program.  Each `deeds` says what that is,
before anything has come of it, and each `events_conduct` that nothing else happens in the backend.

* `Dispatcher.events_conduct` : the events of a run are what it sets going;
* `Dispatcher.length_deeds_le` : this is at most one thing.
-/

namespace ToolRelay

namespace Traced

variable {α : Type} {x : Traced α} {ds : List Deed}

theorem messages_eq_nil (h : x.events = ds.map .deed) : x.messages = [] := by
  rw [messages, h, List.filterMap_map]
  exact List.filterMap_eq_nil_iff.2 fun _ _ => rfl

theorem deeds_eq (h : x.events = ds.map .deed) : x.deeds = ds := by
  rw [deeds, h, List.filterMap_map]
  exact List.filterMap_some

end Traced

namespace Direct

/-- What a run of a command line sets going: its command, if there is one. -/
def deeds (i : Invocation) : List Deed :=
  match i.argv with
  | [] => []
  | program :: args => [.start (command program args i.workingDir)]

theorem events_conduct (host : Host) (timeoutMs : Nat) (i : Invocation) :
    (conduct host timeoutMs i).events = (deeds i).map .deed := by
  rw [conduct, deeds]
  cases i.argv with
  | nil => rfl
  | cons program args =>
    simp only [Host.launch, Traced.events_bind, Traced.value_act]
    cases host.start (command program args i.workingDir) <;> rfl

end Direct

namespace InProcess

/-- What a run of a module sets going: the module, if there is one of the name, with the arguments,
the directory and the standard input of the run. -/
def deeds (b : InProcess) (i : Invocation) : List Deed :=
  match i.argv.head?.bind b.registry.get? with
  | none => []
  | some _ => [.run i.argv i.workingDir i.stdinText]

theorem events_conduct (b : InProcess) (i : Invocation) :
    (b.conduct i).events = (b.deeds i).map .deed := by
  rw [conduct, deeds]
  cases i.argv with
  | nil => rfl
  | cons name args =>
    rw [List.head?_cons, Option.bind_some]
    dsimp only
    cases b.registry.get? name with
    | none => rfl
    | some m =>
      simp only [withPath, ToolModule.conduct, Traced.events_bind, Traced.value_bind,
        Traced.value_act, Traced.value_pure]
      split <;> rfl

end InProcess

namespace Remote.Pool

/-- What a run in the runner of a key sets going: a runner, if there is none and there is an
interpreter. -/
def deeds (host : Host) (p : Pool) (key : Key) : List Deed :=
  match p.find? key, key.interpreter with
  | none, program :: args => [.start (p.command host key program args)]
  | _, _ => []

theorem events_launch (host : Host) (p : Pool) {key : Key} (h : p.find? key = none) :
    (p.launch host key).events = (p.deeds host key).map .deed := by
  rw [launch, deeds, h]
  cases key.interpreter with
  | nil => rfl
  | cons program args =>
    simp only [Host.launch, Traced.events_bind, Traced.value_act]
    cases host.start (p.command host key program args) <;> rfl

theorem events_conduct (host : Host) (p : Pool) (t : Target) (i : Invocation) :
    (p.conduct host t i).events = (p.deeds host t.key).map .deed := by
  rw [conduct, Traced.events_bind, Traced.events_pure, List.append_nil, engage]
  cases h : p.find? t.key with
  | some c =>
    rw [deeds, h]
    rfl
  | none => exact p.events_launch host h

/-- A pool with a runner for the key starts none, and else it starts at most one. -/
theorem length_deeds_le (host : Host) (p : Pool) (key : Key) :
    (p.deeds host key).length ≤ if (p.find? key).isSome then 0 else 1 := by
  rw [deeds]
  cases p.find? key <;> cases key.interpreter <;> simp

end Remote.Pool

namespace Dispatcher

/-- What a run sets going. -/
def deeds (host : Host) (d : Dispatcher) (p : Prepared) : List Deed :=
  match p.strategy with
  | .direct => Direct.deeds p.request
  | .remote => d.pool.deeds host (target d.tool p.record).key
  | .inProcess => d.modules.deeds p.request

/-- **The events of a run are what it sets going.** -/
theorem events_conduct (host : Host) (d : Dispatcher) (p : Prepared) :
    (d.conduct host p).events = (d.deeds host p).map .deed := by
  rw [conduct, deeds]
  cases p.strategy with
  | direct => exact (List.append_nil _).trans (Direct.events_conduct ..)
  | remote => exact (List.append_nil _).trans (Remote.Pool.events_conduct ..)
  | inProcess => exact (List.append_nil _).trans (InProcess.events_conduct ..)

/-- A run sets at most one thing going. -/
theorem length_deeds_le (host : Host) (d : Dispatcher) (p : Prepared) :
    (d.deeds host p).length ≤ 1 := by
  rw [deeds]
  cases p.strategy with
  | direct => cases h : p.request.argv <;> simp [Direct.deeds, h]
  | remote => exact Nat.le_trans (d.pool.length_deeds_le host _) (by split <;> simp)
  | inProcess =>
    cases h : p.request.argv.head?.bind d.modules.registry.get? <;> simp [InProcess.deeds, h]

end Dispatcher

end ToolRelay
