import Mathlib.Tactic.SplitIfs
import ToolRelay.Proofs.Dispatch.Filter
import ToolRelay.Proofs.Dispatch.Strategy
import ToolRelay.Proofs.Invocation.Guard
import ToolRelay.Proofs.Settings.Store
import ToolRelay.Proofs.Text.Replace
import ToolRelay.Runner.Serve

/-!
# Argument vectors

What a run is prepared with: the argument vector, piece by piece (`Preparation.Assembled`), and that
nothing is missing which the way of running it needs (`Preparation.Ready`).

* `Preparation.filled_replace` : the path of the document takes the place of every placeholder, and
  a placeholder in the path itself stays;
* `Preparation.runs_complete` : every run that is prepared is assembled like that, and no backend
  refuses it for want of something.
-/

namespace ToolRelay

namespace Preparation

variable {host : Host} {p : Preparation} {d : Document} {tool : ToolSpec} {path : Option Path}
  {record : SettingsRecord} {useStdin : Bool} {extra last : List String} {prepared : Prepared}

/-! ### The part for the document -/

/-- What a placeholder stands for: the path as it is displayed, or nothing. -/
def pathText (path : Option Path) : String := (path.map Path.display).getD ""

/-- The argument `out` is the argument `arg` with `text` in the place of every placeholder: what
stands before, between and behind the placeholders is the same. -/
structure Filled (text arg out : String) : Prop where
  /-- The argument can be cut at the placeholders. -/
  exists_cuts : ∃ pieces, Text.Cuts placeholder.toList arg.toList pieces
  /-- The pieces are joined by the text. -/
  eq_intercalate : ∀ pieces, Text.Cuts placeholder.toList arg.toList pieces →
    out.toList = List.intercalate text.toList pieces

theorem Filled.unique {text arg out out' : String} (h : Filled text arg out)
    (h' : Filled text arg out') : out = out' := by
  obtain ⟨pieces, hcuts⟩ := h.exists_cuts
  rw [← String.toList_inj, h.eq_intercalate pieces hcuts, h'.eq_intercalate pieces hcuts]

/-- **Placeholders are replaced in one pass**, whatever the text is. -/
theorem filled_replace (text arg : String) :
    Filled text arg (Text.replace placeholder text arg) where
  exists_cuts :=
    let ⟨pieces, _, h⟩ := Text.exists_cuts (by decide) arg.toList
    ⟨pieces, h⟩
  eq_intercalate _ h := h.toList_replace rfl (by decide) text

/-- What the argument vector ends with: the path if there is no standard input, and otherwise the
arguments of the tool for standard input with the path filled in. -/
def DocumentPart (tool : ToolSpec) (path : Option Path) (useStdin : Bool) (last : List String) :
    Prop :=
  match useStdin, path with
  | false, none => last = []
  | false, some path => last = [path.display]
  | true, path => List.Forall₂ (Filled (pathText path)) tool.stdinArgs last

theorem documentPart_documentArguments (tool : ToolSpec) (path : Option Path) (useStdin : Bool) :
    DocumentPart tool path useStdin (documentArguments tool path useStdin) := by
  cases useStdin with
  | false => cases path <;> rfl
  | true =>
    refine List.forall₂_map_right_iff.2 (List.forall₂_same.2 fun arg _ => ?_)
    exact filled_replace (pathText path) arg

/-! ### The whole -/

/-- The pieces of a run with the record `record`, where `last` is the part for the document. -/
structure Assembled (p : Preparation) (record : SettingsRecord) (extra last : List String)
    (prepared : Prepared) : Prop where
  /-- The record is that of the run. -/
  record_eq : prepared.record = record
  /-- The record and the program that runs now decide on the way. -/
  strategy_eq : prepared.strategy = Strategy.select record p.store.runtime
  /-- The command line of the tool or the module, the arguments of the tool, those of the settings,
  those of the caller, and the part for the document. -/
  argv_eq : prepared.request.argv =
    (if prepared.strategy = .direct then record.toolPath else [p.tool.module]) ++ p.tool.args ++
      record.extraArgs ++ extra ++ last

/-- Nothing is missing that the way of running needs. -/
structure Ready (tool : ToolSpec) (prepared : Prepared) : Prop where
  /-- There is something to run. -/
  argv_ne_nil : prepared.request.argv ≠ []
  /-- A process is started from the command line of the tool. -/
  head?_direct : prepared.strategy = .direct →
    prepared.record.toolPath ≠ [] ∧
      prepared.request.argv.head? = prepared.record.toolPath.head?
  /-- There is an interpreter for a runner. -/
  interpreterPath_ne_nil : prepared.strategy = .remote → prepared.record.interpreterPath ≠ []
  /-- What is run as a module begins with its name. -/
  head?_module : prepared.strategy ≠ .direct → prepared.request.argv.head? = some tool.module

theorem head_eq (tool : ToolSpec) (strategy : Strategy) (record : SettingsRecord) :
    head tool strategy record =
      if strategy = .direct then record.toolPath else [tool.module] := by
  cases strategy <;> rfl

theorem assembled_runOn (p : Preparation) (record : SettingsRecord) (path : Option Path)
    (source : String) (useStdin : Bool) (extra : List String) :
    p.Assembled record extra (documentArguments p.tool path useStdin)
      (runOn p.tool p.store.runtime record path source useStdin extra) where
  record_eq := rfl
  strategy_eq := rfl
  argv_eq := by
    rw [← head_eq]
    rfl

theorem assembled_global (host : Host) (p : Preparation) (extra : List String) :
    p.Assembled (p.store.resolve host none).value extra [] (p.global host extra).value where
  record_eq := rfl
  strategy_eq := rfl
  argv_eq := by
    rw [← head_eq, List.append_nil]
    rfl

/-- A document that is not left out is run with the settings for it. -/
theorem eq_runOn_of_document (h : (p.document host d useStdin extra).value = .ok prepared) :
    prepared = runOn p.tool p.store.runtime (p.recordFor host d) (absolutePath host d).value
      d.source useStdin extra := by
  rw [document] at h
  split_ifs at h
  split at h
  · contradiction
  · rw [Traced.value_bind] at h
    split_ifs at h
    rw [Traced.value_bind] at h
    split_ifs at h
    exact (Except.ok.inj h).symm

/-- The way of running is chosen such that nothing is missing. -/
theorem Assembled.ready (h : p.Assembled record extra last prepared) : Ready p.tool prepared := by
  have hargv := h.argv_eq
  have hdirect : prepared.strategy = .direct ↔ record.toolPath ≠ [] := by
    rw [h.strategy_eq, Strategy.select_eq_direct_iff]
  cases h.record_eq
  -- a process is started exactly if there is a command line to begin with
  by_cases hs : prepared.strategy = .direct
  · obtain ⟨program, args, htool⟩ := List.exists_cons_of_ne_nil (hdirect.1 hs)
    rw [if_pos hs, htool] at hargv
    exact
      { argv_ne_nil := by simp [hargv]
        head?_direct := fun _ => ⟨hdirect.1 hs, by rw [hargv, htool]; rfl⟩
        interpreterPath_ne_nil := by simp [hs]
        head?_module := fun hne => absurd hs hne }
  · rw [if_neg hs] at hargv
    exact
      { argv_ne_nil := by simp [hargv]
        head?_direct := fun h => absurd h hs
        interpreterPath_ne_nil := fun hr => by
          rw [h.strategy_eq, Strategy.select_eq_remote_iff] at hr
          obtain ⟨-, interpreter, args, hi, -⟩ := hr
          simp [hi]
        head?_module := fun _ => by rw [hargv]; rfl }

/-! ### The backends -/

/-- What the backends make of a run: none refuses it for want of something, at any moment and in any
surroundings, and a runner does not put the name of the module before its argument vector again. -/
structure Accepted (tool : ToolSpec) (prepared : Prepared) : Prop where
  /-- The backend that the run is handed to does not refuse it. -/
  perform_ne_refusal : ∀ (host : Host) (d : Dispatcher), d.tool = tool →
    (d.perform host prepared).1 ≠ prepared.strategy.refusal
  /-- A runner that is asked for the run calls the module with the same argument vector. -/
  argv_invocation : prepared.strategy ≠ .direct →
    (Runner.invocation (Remote.Pool.params (Dispatcher.target tool prepared.record)
      prepared.request)).argv = prepared.request.argv

theorem Ready.accepted (h : Ready tool prepared) : Accepted tool prepared where
  perform_ne_refusal host d hd := by
    cases hs : prepared.strategy with
    | direct =>
      rw [Dispatcher.perform_direct hs]
      exact mt Direct.invoke_eq_refusal_iff.1 h.argv_ne_nil
    | remote =>
      rw [Dispatcher.perform_remote hs]
      exact mt (fun hr => (Remote.Pool.invoke_eq_refusal_iff.1 hr).2) (h.interpreterPath_ne_nil hs)
    | inProcess =>
      rw [Dispatcher.perform_inProcess hs]
      exact mt InProcess.invoke_eq_refusal_iff.1 h.argv_ne_nil
  argv_invocation hs := if_pos (h.head?_module hs)

/-- **Every run that is prepared is complete**, whatever the tool, the settings, the program that
runs now, the document and the arguments of the caller are.  The argument vector of a document that
is not left out consists of the command line of the tool or the name of the module, the arguments of
the tool, those of the settings, those of the caller, and the part for the document, in which the
path takes the place of each placeholder and is not looked into for others; that of a run without a
document is the same without the last part.  It follows that it is never empty; that a process is
started from the command line of the settings; that there is an interpreter if a runner is asked;
that a module finds its name at the head, which the runner does not repeat; and that the checks of
the backends for these things never fail. -/
theorem runs_complete (host : Host) (p : Preparation) (extra : List String) :
    (∀ (d : Document) (useStdin : Bool) (prepared : Prepared),
      (p.document host d useStdin extra).value = .ok prepared →
      ∃ last, DocumentPart p.tool (absolutePath host d).value useStdin last ∧
        p.Assembled (p.recordFor host d) extra last prepared ∧
        Ready p.tool prepared ∧ Accepted p.tool prepared) ∧
    let prepared := (p.global host extra).value
    p.Assembled (p.store.resolve host none).value extra [] prepared ∧
      Ready p.tool prepared ∧ Accepted p.tool prepared := by
  constructor
  · intro d useStdin prepared h
    cases eq_runOn_of_document h
    have hassembled := assembled_runOn p (p.recordFor host d) (absolutePath host d).value d.source
      useStdin extra
    exact ⟨_, documentPart_documentArguments _ _ _, hassembled, hassembled.ready,
      hassembled.ready.accepted⟩
  · have hassembled := assembled_global host p extra
    exact ⟨hassembled, hassembled.ready, hassembled.ready.accepted⟩

/-! ### A path that looks like a placeholder -/

/-- A tool that gets the path of the document three times. -/
def templateTool : ToolSpec :=
  { ToolSpec.standard with
    stdinArgs := ["--name=\x7bpath\x7d", "\x7bpath\x7d:\x7bpath\x7d"] }

/-- Runs of that tool before any settings. -/
def templatePreparation : Preparation := ⟨templateTool, .new ⟨[]⟩, fun _ => none, ⟨.off⟩⟩

/-- A document whose path holds a placeholder. -/
def bracedDocument : Document := .ofPath (Path.ofString "/\x7bpath\x7d") ""

theorem runs_complete_braced :
    ∃ prepared,
      (templatePreparation.document Store.rootHost bracedDocument true ["-q"]).value =
        .ok prepared ∧
      ∃ last,
        DocumentPart templateTool (some (Path.ofString "/\x7bpath\x7d")) true last ∧
        templatePreparation.Assembled (templatePreparation.recordFor Store.rootHost bracedDocument)
          ["-q"] last prepared ∧
        Ready templateTool prepared ∧ Accepted templateTool prepared := by
  have hskip : skip? (templatePreparation.document Store.rootHost bracedDocument true
      ["-q"]).value = none := by decide +kernel
  cases h : (templatePreparation.document Store.rootHost bracedDocument true ["-q"]).value with
  | error reason =>
    rw [h] at hskip
    contradiction
  | ok prepared =>
    exact ⟨prepared, rfl,
      (runs_complete Store.rootHost templatePreparation ["-q"]).1 bracedDocument true prepared h⟩

example : (templatePreparation.document Store.rootHost bracedDocument true ["-q"]).value.map
    (·.request.argv) =
    .ok ["echo", "-q", "--name=/\x7bpath\x7d", "/\x7bpath\x7d:/\x7bpath\x7d"] := by
  decide +kernel

end Preparation

end ToolRelay
