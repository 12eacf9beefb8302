import ToolRelay.Proofs.Dispatch.Strategy
import ToolRelay.Proofs.Path.Shown
import ToolRelay.Proofs.Settings.History

/-!
# Tools for which no program is named

Where the settings name neither a command line for the tool nor an interpreter, a record has the
program that runs now as its interpreter.  It has it as text, in which the flaws of the path are
replaced, and is still recognized: the text of a path has the normal form of the path, as it is
shown.

* `SettingsRecord.Own` : such a record; `SettingsRecord.own_ofGlobal` and
  `SettingsRecord.Own.overlay` say where it comes from.
* `Snapshot.value_resolve` : the record for a document is stored or made from the global settings.
* `Store.unnamed_inProcess` : after every history the tool runs in this program if nothing is named.
-/

namespace ToolRelay

variable {runtime : Path}

/-- Neither the tool nor an interpreter is named. -/
def GlobalSettings.Unnamed (g : GlobalSettings) : Prop :=
  g.path.getD [] = [] ∧ g.interpreter.getD [] = []

/-- Neither the tool nor an interpreter is named. -/
def WorkspaceEntry.Unnamed (e : WorkspaceEntry) : Prop :=
  e.path.getD [] = [] ∧ e.interpreter.getD [] = []

/-! ### Records for which nothing is named -/

namespace SettingsRecord

/-- The tool is not started by its path, and no interpreter is set but the text of the program that
runs now. -/
structure Own (runtime : Path) (r : SettingsRecord) : Prop where
  /-- There is no command line for the tool. -/
  toolPath : r.toolPath = []
  /-- There is no interpreter, or the program that runs now as it is shown. -/
  interpreterPath : r.interpreterPath = [] ∨ r.interpreterPath = [runtime.display]

theorem own_ofGlobal {global : GlobalSettings} (h : global.Unnamed) (runtime root : Path) :
    Own runtime (ofGlobal runtime global root) where
  toolPath := h.1
  interpreterPath := by
    rw [ofGlobal]
    cases hi : global.interpreter with
    | none => exact .inr rfl
    | some interpreter =>
      have hnil := h.2
      rw [hi] at hnil
      exact .inl hnil

theorem Own.overlay {r : SettingsRecord} (h : r.Own runtime) {e : WorkspaceEntry}
    (he : e.Unnamed) : (r.overlay e).Own runtime where
  toolPath := by
    rw [SettingsRecord.overlay]
    cases hp : e.path with
    | none => exact h.toolPath
    | some path =>
      have hnil := he.1
      rwa [hp] at hnil
  interpreterPath := by
    rw [SettingsRecord.overlay]
    cases hi : e.interpreter with
    | none => exact h.interpreterPath
    | some interpreter =>
      have hnil := he.2
      rw [hi] at hnil
      exact .inl hnil

end SettingsRecord

/-! ### The program that runs now -/

/-- The text of a path is taken for the path, whatever flaws it has. -/
theorem Path.same_shown (p : Path) : p.shown.same p = true := by
  rw [same, beq_iff_eq, comparable, comparable, normalize_shown]
  exact Utf8.lossy_shown _

theorem SettingsRecord.Own.select {r : SettingsRecord} (h : r.Own runtime) :
    Strategy.select r runtime = .inProcess := by
  refine Strategy.select_eq_inProcess_iff.2 ⟨h.toolPath, fun interpreter args hi => ?_⟩
  obtain hnil | hown := h.interpreterPath
  · rw [hnil] at hi
    contradiction
  · rw [hown] at hi
    obtain ⟨rfl, -⟩ := List.cons.inj hi
    exact runtime.same_shown

/-! ### Where records come from -/

namespace Snapshot

variable {s : Snapshot} {record : SettingsRecord}

theorem mem_records_of_find? {dir : Path} (h : s.find? dir = some record) :
    record ∈ s.records := by
  rw [find?] at h
  split at h
  · rename_i root found hkey
    obtain rfl := Option.some.inj h
    exact List.mem_map_of_mem (List.mem_of_find?_eq_some hkey)
  · exact List.mem_of_find?_eq_some h

theorem mem_records_of_firstOf {dirs : List Path} (h : s.firstOf dirs = some record) :
    record ∈ s.records := by
  induction dirs with
  | nil => contradiction
  | cons dir rest ih =>
    rw [firstOf] at h
    split at h
    · rename_i found hfound
      obtain rfl := Option.some.inj h
      exact mem_records_of_find? hfound
    · exact ih h

/-- The record for a document is a stored one or made from the global settings. -/
theorem value_resolve (host : Host) (runtime : Path) (s : Snapshot) (document : Option Path) :
    (s.resolve host runtime document).value ∈ s.records ∨
      ∃ dir, (s.resolve host runtime document).value = .ofGlobal runtime s.global dir := by
  unfold resolve
  cases document with
  | none =>
    cases hrecords : s.records with
    | nil => exact .inr ⟨_, rfl⟩
    | cons record rest => exact .inl (List.mem_cons_self ..)
  | some document =>
    rw [Traced.value_bind]
    dsimp only
    split
    · rename_i record hfirst
      exact .inl (mem_records_of_firstOf hfirst)
    · exact .inr ⟨_, rfl⟩

end Snapshot

namespace Store

variable {calls : List (Host × Change)} {host : Host} {c : Change} {record : SettingsRecord}

/-- The record under a root names nothing if the global settings and the entries for the root of
the last call do not. -/
theorem own_of_mem_changes (hglobal : (lastGlobal .empty calls).Unnamed)
    (hlast : calls.getLast? = some (host, c)) {root : Path}
    (h : (root, record) ∈ ((new runtime).changes calls).value.snapshot.workspaces)
    (hc : ∀ e ∈ c.entries, e.root? host = some root → e.Unnamed) : record.Own runtime := by
  rw [snapshot_changes (new runtime) hlast] at h
  by_cases hes : c.entries = []
  · rw [hes, Snapshot.workspaces_build_nil, List.mem_singleton] at h
    obtain ⟨rfl, rfl⟩ := Prod.mk.inj h
    exact SettingsRecord.own_ofGlobal hglobal _ _
  · obtain ⟨before, last, after, hsplit, hroot, -, rfl⟩ := Snapshot.exists_last_of_mem_build hes h
    have hmem : last ∈ c.entries := by
      rw [hsplit]
      exact List.mem_append_right _ (List.mem_cons_self ..)
    exact (SettingsRecord.own_ofGlobal hglobal _ _).overlay (hc last hmem hroot)

/-- **If nothing is named, the tool runs in this program.**  Let neither the global settings that
were given last name the tool or an interpreter.  After every history, with every program that runs
now, a stored record leads to this program if no entry of the last call for its root names the tool
or an interpreter, and so does every record that is made from the global settings; hence the record
for every document and for none does so, if no entry of the last call names one.  For replacing
flaws commutes with cutting a path into components, with resolving and with writing them. -/
theorem unnamed_inProcess (runtime : Path) (calls : List (Host × Change))
    (hglobal : (lastGlobal .empty calls).Unnamed) :
    let s := ((new runtime).changes calls).value
    (∀ root record, (root, record) ∈ s.snapshot.workspaces →
      (∀ host c, calls.getLast? = some (host, c) →
        ∀ e ∈ c.entries, e.root? host = some root → e.Unnamed) →
      Strategy.select record runtime = .inProcess) ∧
    (∀ dir, Strategy.select (.ofGlobal runtime s.snapshot.global dir) runtime = .inProcess) ∧
    ((∀ host c, calls.getLast? = some (host, c) → ∀ e ∈ c.entries, e.Unnamed) →
      ∀ view document,
        Strategy.select (s.resolve view document).value runtime = .inProcess) ∧
    (∀ p : Path, p.shown.components = p.components.map .shown) ∧
    (∀ absolute cs, Path.resolve absolute (cs.map .shown) =
      (Path.resolve absolute cs).map .shown) ∧
    (∀ cs, (Path.ofComponents cs).shown = Path.ofComponents (cs.map .shown)) ∧
    ∀ p : Path, p.shown.normalize = p.normalize.shown := by
  intro s
  have hruntime : s.runtime = runtime := runtime_changes _ calls
  have hmade (dir : Path) :
      Strategy.select (.ofGlobal runtime s.snapshot.global dir) runtime = .inProcess := by
    rw [show s.snapshot.global = lastGlobal .empty calls from global_changes _ calls]
    exact (SettingsRecord.own_ofGlobal hglobal runtime dir).select
  have hstored (root : Path) (record : SettingsRecord)
      (hmem : (root, record) ∈ s.snapshot.workspaces)
      (hc : ∀ host c, calls.getLast? = some (host, c) →
        ∀ e ∈ c.entries, e.root? host = some root → e.Unnamed) :
      Strategy.select record runtime = .inProcess := by
    cases hcalls : calls.getLast? with
    | none =>
      obtain rfl := List.getLast?_eq_none_iff.1 hcalls
      exact nomatch hmem
    | some call => exact (own_of_mem_changes hglobal hcalls hmem (hc _ _ hcalls)).select
  refine ⟨hstored, hmade, fun hc view document => ?_, Path.components_shown,
    Path.resolve_rename _, Path.shown_ofComponents, Path.normalize_shown⟩
  rw [resolve, hruntime]
  obtain hmem | ⟨dir, hdir⟩ := Snapshot.value_resolve view runtime s.snapshot document
  · obtain ⟨entry, hentry, hrecord⟩ := List.mem_map.1 hmem
    rw [← hrecord]
    exact hstored _ _ hentry fun host c hlast e he _ => hc host c hlast e he
  · rw [hdir]
    exact hmade dir

/-- A program at a relative path with a flaw in it, written with a detour. -/
def flawedRuntime : Path := ⟨Utf8.encode "a/../" ++ [0xFF] ++ Utf8.encode "/.//" ++ [0xE2, 0x82]⟩

/-- A history in which only arguments are set. -/
def unnamedCalls : List (Host × Change) :=
  [(rootHost, .setUp { GlobalSettings.empty with args := some ["--all"] } none),
    (rootHost, .replace (some [⟨"/a", some [], none, some ["--first"], none, none⟩]))]

theorem unnamed_inProcess_flawed :
    Strategy.select (((new flawedRuntime).changes unnamedCalls).value.resolve rootHost
      (some (Path.ofString "/a/b"))).value flawedRuntime = .inProcess := by
  obtain ⟨-, -, hall, -⟩ := unnamed_inProcess flawedRuntime unnamedCalls ⟨rfl, rfl⟩
  refine hall (fun host c hlast e he => ?_) _ _
  obtain ⟨-, rfl⟩ := Prod.mk.inj (Option.some.inj hlast)
  obtain rfl := List.mem_singleton.1 he
  exact ⟨rfl, rfl⟩

example : (((new flawedRuntime).changes unnamedCalls).value.resolve rootHost
    (some (Path.ofString "/a/b"))).value.interpreterPath = ["a/../\uFFFD/.//\uFFFD"] := by
  decide +kernel

end Store

end ToolRelay
