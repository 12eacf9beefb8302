import ToolRelay.Proofs.Settings.Store

/-!
# Stores along a history

A store is changed by calls, each of which finds the outside world in a state of its own
(`Store.changes`).  A call builds the content anew; all that it takes from the content before are
the global settings.  So the content after a history is what the last call builds from its entries
and from the last global settings that were given (`Store.snapshot_changes`).

* `Store.changes_agree` : how the parts of a store agree after every history.
* `Store.changes_forget` : a store remembers nothing of a history but the last global settings.
-/

namespace ToolRelay

namespace Store

/-- A call that changes a store. -/
inductive Change where
  /-- A session is opened with global settings and entries. -/
  | setUp (global : GlobalSettings) (payload : Option (List WorkspaceEntry))
  /-- The configuration is changed to other entries. -/
  | replace (payload : Option (List WorkspaceEntry))

namespace Change

/-- The entries of a call, if it comes with any. -/
def payload : Change → Option (List WorkspaceEntry)
  | setUp _ payload | replace payload => payload

/-- The entries of a call; no payload is the same as an empty one. -/
def entries (c : Change) : List WorkspaceEntry := c.payload.getD []

/-- The global settings that a call gives. -/
def global? : Change → Option GlobalSettings
  | setUp global _ => some global
  | replace _ => none

end Change

/-- A store after a call. -/
def change (host : Host) (s : Store) : Change → Traced Store
  | .setUp global payload => s.setUp host global payload
  | .replace payload => s.replace host payload

/-- A store after calls, one after another. -/
def changes (s : Store) : List (Host × Change) → Traced Store
  | [] => pure s
  | (host, c) :: rest => do (← s.change host c).changes rest

/-- The last global settings that calls give, where `global` are those before. -/
def lastGlobal (global : GlobalSettings) (calls : List (Host × Change)) : GlobalSettings :=
  (calls.filterMap (·.2.global?)).getLast?.getD global

variable {host : Host} {runtime : Path} {calls : List (Host × Change)}

/-! ### One call -/

/-- Opening a session is the only call there is: a change of the configuration opens it again with
the global settings that are there. -/
theorem change_eq_setUp (host : Host) (s : Store) (c : Change) :
    s.change host c = s.setUp host (c.global?.getD s.snapshot.global) c.payload := by
  cases c <;> rfl

theorem runtime_change (host : Host) (s : Store) (c : Change) :
    (s.change host c).value.runtime = s.runtime := by
  rw [change_eq_setUp]
  rfl

theorem snapshot_change (host : Host) (s : Store) (c : Change) :
    (s.change host c).value.snapshot =
      (Snapshot.build host s.runtime (c.global?.getD s.snapshot.global) c.entries).value := by
  rw [change_eq_setUp]
  rfl

/-! ### All calls -/

theorem value_changes_append (s : Store) (later : List (Host × Change)) :
    (s.changes (calls ++ later)).value = ((s.changes calls).value.changes later).value := by
  induction calls generalizing s with
  | nil => rfl
  | cons first rest ih => exact ih _

theorem value_changes_concat (s : Store) (c : Change) :
    (s.changes (calls ++ [(host, c)])).value = ((s.changes calls).value.change host c).value :=
  value_changes_append s [(host, c)]

theorem runtime_changes (s : Store) (calls : List (Host × Change)) :
    (s.changes calls).value.runtime = s.runtime := by
  induction calls generalizing s with
  | nil => rfl
  | cons first rest ih => exact (ih _).trans (runtime_change first.1 s first.2)

theorem lastGlobal_concat (global : GlobalSettings) (c : Change) :
    lastGlobal global (calls ++ [(host, c)]) = c.global?.getD (lastGlobal global calls) := by
  rw [lastGlobal, List.filterMap_append]
  cases h : c.global? <;> simp [h, lastGlobal]

theorem lastGlobal_append_of_none (global : GlobalSettings) {later : List (Host × Change)}
    (h : ∀ call ∈ later, call.2.global? = none) :
    lastGlobal global (calls ++ later) = lastGlobal global calls := by
  rw [lastGlobal, List.filterMap_append, List.filterMap_eq_nil_iff.2 h, List.append_nil, lastGlobal]

/-- A store has the last global settings that were given. -/
theorem global_changes (s : Store) (calls : List (Host × Change)) :
    (s.changes calls).value.snapshot.global = lastGlobal s.snapshot.global calls := by
  induction calls using List.reverseRecOn with
  | nil => rfl
  | append_singleton calls call ih =>
    rw [value_changes_concat, snapshot_change, Snapshot.global_build, ih, lastGlobal_concat]

/-- What is left of a history after its last call. -/
theorem snapshot_changes (s : Store) {c : Change} (h : calls.getLast? = some (host, c)) :
    (s.changes calls).value.snapshot =
      (Snapshot.build host s.runtime (lastGlobal s.snapshot.global calls) c.entries).value := by
  obtain ⟨past, rfl⟩ := List.getLast?_eq_some_iff.1 h
  rw [value_changes_concat, snapshot_change, runtime_changes, global_changes, lastGlobal_concat]

/-! ### What holds after every history -/

theorem agreeing_changes (runtime : Path) (calls : List (Host × Change)) :
    ((new runtime).changes calls).value.snapshot.Agreeing := by
  cases h : calls.getLast? with
  | none =>
    obtain rfl := List.getLast?_eq_none_iff.1 h
    exact Snapshot.agreeing_empty
  | some call =>
    rw [snapshot_changes (new runtime) h]
    exact Snapshot.agreeing_build _

/-- **After every history the parts of a store agree.**  No two records stand under one root, each
record stands under the root that it names, the roots are in normal form, and absolute if the
current directory is known at the last call; the matcher is that for the patterns of the global
settings.  There is one record for the current directory if the last call comes without entries.
Otherwise the roots are those that its entries name, in the order in which they are named first,
and a record is what the last entry for its root lays over the global settings.  There are no
records only before the first call, or if no entry of the last one names a root. -/
theorem changes_agree (runtime : Path) (calls : List (Host × Change)) :
    let s := ((new runtime).changes calls).value.snapshot
    s.Agreeing ∧
    (s.workspaces = [] ↔ calls = [] ∨ ∃ host c, calls.getLast? = some (host, c) ∧
      c.entries ≠ [] ∧ ∀ e ∈ c.entries, Path.ofWorkspace? e.workspace = none) ∧
    ∀ host c, calls.getLast? = some (host, c) →
      (∀ dir, host.currentDir = .ok dir → dir.isAbsolute = true →
        ∀ root ∈ s.roots, root.isAbsolute = true) ∧
      (c.entries = [] → ∃ root, root = (host.absolutize host.workingDir.value).value ∧
        s.workspaces = [(root, .ofGlobal runtime s.global root)]) ∧
      (c.entries ≠ [] → s.roots = (c.entries.filterMap (·.root? host)).eraseDups ∧
        ∀ root record, (root, record) ∈ s.workspaces →
          ∃ before e after, c.entries = before ++ e :: after ∧ e.root? host = some root ∧
            (∀ later ∈ after, later.root? host ≠ some root) ∧
            record = (SettingsRecord.ofGlobal runtime s.global root).overlay e) := by
  intro s
  -- a history has no call or a last one, and a call builds the content anew
  cases hcalls : calls.getLast? with
  | none =>
    obtain rfl := List.getLast?_eq_none_iff.1 hcalls
    exact ⟨Snapshot.agreeing_empty, iff_of_true rfl (.inl rfl), fun _ _ h => nomatch h⟩
  | some call =>
    obtain ⟨host, c⟩ := call
    have hne : calls ≠ [] := by
      rintro rfl
      contradiction
    rw [show s = _ from snapshot_changes (new runtime) hcalls, Snapshot.global_build]
    refine ⟨Snapshot.agreeing_build _, ?_, ?_⟩
    · rw [Snapshot.workspaces_build, List.map_eq_nil_iff, Snapshot.rootsFor_eq_nil_iff]
      simp [hne]
    · rintro _ _ ⟨rfl, rfl⟩
      rw [Snapshot.roots_build]
      refine ⟨fun dir hdir ha => ?_, fun hnil => ?_, fun hne => ⟨?_, fun root record hmem => ?_⟩⟩
      · exact Snapshot.isAbsolute_of_mem_rootsFor hdir ha
      · rw [hnil]
        exact ⟨_, rfl, Snapshot.workspaces_build_nil⟩
      · rw [Snapshot.rootsFor, if_neg hne, Snapshot.rootsNamed]
      · exact Snapshot.exists_last_of_mem_build hne hmem

/-- An entry that names a directory by its path. -/
def dottedEntry : WorkspaceEntry := ⟨"/a/./", none, none, some ["--first"], none, none⟩

/-- An entry that names nothing. -/
def placelessEntry : WorkspaceEntry := ⟨"untitled:a", none, none, none, none, none⟩

/-- An entry that names the same directory as the first one by a URI. -/
def uriEntry : WorkspaceEntry := ⟨"file:///a", some ["tool"], none, none, none, none⟩

/-- A history whose last call names one directory twice, and nothing in between. -/
def respelledCalls : List (Host × Change) :=
  [(rootHost, .setUp { GlobalSettings.empty with args := some ["--all"] } none),
    (rootHost, .replace (some [dottedEntry, placelessEntry, uriEntry]))]

/-- The last entry decides, and the first one leaves no trace. -/
theorem changes_agree_respelled :
    let s := ((new ⟨[]⟩).changes respelledCalls).value.snapshot
    s.roots = [Path.ofString "/a"] ∧ (∀ root ∈ s.roots, root.isAbsolute = true) ∧
      ∀ root record, (root, record) ∈ s.workspaces →
        record.toolPath = ["tool"] ∧ record.extraArgs = ["--all"] := by
  intro s
  obtain ⟨-, -, hlast⟩ := changes_agree ⟨[]⟩ respelledCalls
  obtain ⟨habs, -, hroots⟩ := hlast _ _ rfl
  obtain ⟨hnames, hrecords⟩ := hroots nofun
  have hglobal : s.global.args = some ["--all"] := by decide +kernel
  have hsame : dottedEntry.root? rootHost = uriEntry.root? rootHost := by decide +kernel
  have hnone : placelessEntry.root? rootHost = none := by decide +kernel
  refine ⟨hnames.trans (by decide +kernel), habs _ rfl rfl, fun root record hmem => ?_⟩
  obtain ⟨before, e, after, hentries, hroot, hlater, rfl⟩ := hrecords root record hmem
  have hentries : [dottedEntry, placelessEntry, uriEntry] = before ++ e :: after := hentries
  -- the last entry is that of the root, since it names the same directory as any other that does
  obtain rfl : e = uriEntry := by
    obtain rfl | ⟨after, last, rfl⟩ := after.eq_nil_or_concat'
    · simpa using (congrArg List.getLast? hentries).symm
    · rw [← List.cons_append, ← List.append_assoc] at hentries
      have hend : some uriEntry = some last :=
        (congrArg List.getLast? hentries).trans List.getLast?_concat
      have he : e ∈ before ++ e :: after ++ [last] := by simp
      rw [← hentries] at he
      refine absurd ?_ (hlater last (by simp))
      rw [← Option.some.inj hend, ← hroot]
      obtain rfl | rfl | rfl : e = dottedEntry ∨ e = placelessEntry ∨ e = uriEntry := by
        simpa using he
      · exact hsame.symm
      · rw [hnone] at hroot
        contradiction
      · rfl
  have hextra : (SettingsRecord.ofGlobal ⟨[]⟩ s.global root).extraArgs = ["--all"] := by
    rw [SettingsRecord.ofGlobal, hglobal]
    rfl
  exact ⟨rfl, hextra⟩

/-- **A store remembers nothing of a history but the last global settings.**  After the last call
it is the store that a new one becomes by this call alone, opened with the last global settings
that were given, and so it gives every document the same record. -/
theorem changes_forget (runtime : Path) (past : List (Host × Change)) (host : Host)
    (last : Change) :
    let s := ((new runtime).changes (past ++ [(host, last)])).value
    let fresh := ((new runtime).setUp host (lastGlobal .empty (past ++ [(host, last)]))
      last.payload).value
    s.snapshot = fresh.snapshot ∧
      ∀ view document, s.resolve view document = fresh.resolve view document := by
  intro s fresh
  have hs : s.snapshot = fresh.snapshot := snapshot_changes _ List.getLast?_concat
  have hr : s.runtime = fresh.runtime := runtime_changes _ _
  refine ⟨hs, fun view document => ?_⟩
  rw [resolve, resolve, hs, hr]

end Store

end ToolRelay
