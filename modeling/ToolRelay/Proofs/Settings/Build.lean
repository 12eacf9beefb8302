import ToolRelay.Settings.Store
import ToolRelay.Proofs.Path.Normal
import Mathlib.Data.List.Nodup
import Mathlib.Logic.Function.Basic

/-!
# What a store is built from

`Snapshot.build` goes through the entries of the editor one after another.  What it arrives at can
be said at once: the roots are those that the entries name, in the order in which they are named
first (`Snapshot.rootsFor`), and the record under a root is made by the last entry that names it
(`Snapshot.recordFor`).

* `Snapshot.workspaces_build` : the records of a built store, in order.
* `Snapshot.agreeing_build` : all parts of a built store agree with each other.
-/

namespace ToolRelay

/-! ### Lists without repetitions -/

theorem eraseDups_concat {α : Type} [DecidableEq α] (as : List α) (a : α) :
    (as ++ [a]).eraseDups = if a ∈ as then as.eraseDups else as.eraseDups ++ [a] := by
  rw [List.eraseDups_append]
  split_ifs with h <;> simp [List.removeAll, h, List.eraseDups_cons]

theorem nodup_eraseDups {α : Type} [DecidableEq α] (as : List α) : as.eraseDups.Nodup := by
  induction as using List.reverseRecOn with
  | nil => exact List.nodup_nil
  | append_singleton as a ih =>
    rw [eraseDups_concat]
    split_ifs with h
    · exact ih
    · rw [← List.concat_eq_append]
      exact ih.concat (mt List.mem_eraseDups.1 h)

namespace WorkspaceEntry

/-- The root that an entry names, as a host sees it. -/
def root? (host : Host) (e : WorkspaceEntry) : Option Path :=
  (Path.ofWorkspace? e.workspace).map fun p => (host.absolutize p).value

/-- The last of some entries that names a root. -/
def last? (host : Host) (root : Path) (es : List WorkspaceEntry) : Option WorkspaceEntry :=
  (es.filter (·.root? host = some root)).getLast?

variable {host : Host} {e : WorkspaceEntry} {root : Path} {es : List WorkspaceEntry}

theorem normalize_of_root?_eq_some (h : e.root? host = some root) : root.normalize = root := by
  obtain ⟨p, -, rfl⟩ := Option.map_eq_some_iff.1 h
  exact host.normalize_absolutize p

theorem last?_concat :
    last? host root (es ++ [e]) =
      if e.root? host = some root then some e else last? host root es := by
  rw [last?, List.filter_append]
  split_ifs with h <;> simp [h, last?]

/-- A root that is named is named last by one of the entries. -/
theorem exists_last?_of_mem (he : e ∈ es) (h : e.root? host = some root) :
    ∃ before last after, es = before ++ last :: after ∧ last.root? host = some root ∧
      (∀ later ∈ after, later.root? host ≠ some root) ∧ last? host root es = some last := by
  induction es using List.reverseRecOn with
  | nil => cases he
  | append_singleton es new ih =>
    -- the new entry is the last one, unless it names another root
    by_cases hnew : new.root? host = some root
    · exact ⟨es, new, [], rfl, hnew, nofun, by rw [last?_concat, if_pos hnew]⟩
    · have hold : e ∈ es := by
        obtain hold | rfl := List.mem_append.1 he |>.imp_right List.mem_singleton.1
        · exact hold
        · exact absurd h hnew
      obtain ⟨before, last, after, rfl, hlast, hafter, heq⟩ := ih hold
      refine ⟨before, last, after ++ [new], by simp, hlast, ?_, by
        rw [last?_concat, if_neg hnew, heq]⟩
      exact List.forall_mem_append.2 ⟨hafter, List.forall_mem_singleton.2 hnew⟩

end WorkspaceEntry

namespace Snapshot

open WorkspaceEntry

/-- The roots that entries name, in the order in which they are named first. -/
def rootsNamed (host : Host) (es : List WorkspaceEntry) : List Path :=
  (es.filterMap (·.root? host)).eraseDups

/-- The roots for entries: those that they name; without entries the current directory. -/
def rootsFor (host : Host) (es : List WorkspaceEntry) : List Path :=
  if es = [] then [(currentRoot host).value] else rootsNamed host es

/-- The record for a root: what the last entry that names it says, over the global settings. -/
def recordFor (host : Host) (runtime : Path) (global : GlobalSettings) (es : List WorkspaceEntry)
    (root : Path) : SettingsRecord :=
  (last? host root es).elim (.ofGlobal runtime global root)
    (SettingsRecord.ofGlobal runtime global root).overlay

variable {host : Host} {runtime : Path} {global : GlobalSettings} {e : WorkspaceEntry}
  {root : Path} {es : List WorkspaceEntry}

/-! ### One entry more -/

/-- A root that is there keeps its place and gets the new record; another root comes last. -/
theorem put_map {roots : List Path} (hroots : ∀ r ∈ roots, r.normalize = r)
    (hdistinct : roots.Nodup) (hroot : root.normalize = root) (f : Path → SettingsRecord)
    (record : SettingsRecord) :
    put root record (roots.map fun r => (r, f r)) =
      (if root ∈ roots then roots else roots ++ [root]).map
        fun r => (r, Function.update f root record r) := by
  induction roots with
  | nil => simp [put]
  | cons r rest ih =>
    obtain ⟨hr, hrest⟩ := List.forall_mem_cons.1 hroots
    obtain ⟨hnew, hdistinct⟩ := List.nodup_cons.1 hdistinct
    rw [List.map_cons, put]
    by_cases heq : r = root
    · -- the records after the one that is replaced stay, because their roots are others
      subst heq
      have hothers : rest.map (fun q => (q, f q)) =
          rest.map fun q => (q, Function.update f r record q) :=
        List.map_congr_left fun q hq => by
          rw [Function.update_of_ne (ne_of_mem_of_not_mem hq hnew)]
      rw [if_pos ((Path.agrees_iff_of_normalize hr hroot).2 rfl), if_pos (List.mem_cons_self ..),
        List.map_cons, Function.update_self, hothers]
    · rw [if_neg (mt (Path.agrees_iff_of_normalize hr hroot).1 heq), ih hrest hdistinct]
      by_cases hmem : root ∈ rest
      · simp [hmem, Function.update_of_ne heq]
      · simp [hmem, Ne.symm heq, Function.update_of_ne heq]

theorem mem_rootsNamed : root ∈ rootsNamed host es ↔ ∃ e ∈ es, e.root? host = some root := by
  rw [rootsNamed, List.mem_eraseDups, List.mem_filterMap]

theorem normalize_of_mem_rootsNamed (h : root ∈ rootsNamed host es) : root.normalize = root := by
  obtain ⟨e, -, he⟩ := mem_rootsNamed.1 h
  exact normalize_of_root?_eq_some he

/-- What holds of the current directory and of each directory that an entry names holds of all
roots. -/
theorem forall_mem_rootsFor {P : Path → Prop} (hdir : P (currentRoot host).value)
    (hes : ∀ e ∈ es, ∀ p, Path.ofWorkspace? e.workspace = some p → P (host.absolutize p).value) :
    ∀ root ∈ rootsFor host es, P root := by
  intro root h
  rw [rootsFor] at h
  split_ifs at h
  · obtain rfl := List.mem_singleton.1 h
    exact hdir
  · obtain ⟨e, he, hr⟩ := mem_rootsNamed.1 h
    obtain ⟨p, hp, rfl⟩ := Option.map_eq_some_iff.1 hr
    exact hes e he p hp

theorem rootsNamed_concat_of_none (h : e.root? host = none) :
    rootsNamed host (es ++ [e]) = rootsNamed host es := by
  simp [rootsNamed, h]

theorem rootsNamed_concat_of_some (h : e.root? host = some root) :
    rootsNamed host (es ++ [e]) =
      if root ∈ rootsNamed host es then rootsNamed host es else rootsNamed host es ++ [root] := by
  simp only [rootsNamed, List.filterMap_append, List.filterMap_cons, h, List.filterMap_nil,
    eraseDups_concat, List.mem_eraseDups]

theorem recordFor_concat_of_none (h : e.root? host = none) :
    recordFor host runtime global (es ++ [e]) = recordFor host runtime global es := by
  funext r
  rw [recordFor, last?_concat, h, if_neg nofun, recordFor]

theorem recordFor_concat_of_some (h : e.root? host = some root) :
    recordFor host runtime global (es ++ [e]) =
      Function.update (recordFor host runtime global es) root
        ((SettingsRecord.ofGlobal runtime global root).overlay e) := by
  funext r
  rw [recordFor, last?_concat, h]
  by_cases hr : root = r
  · subst hr
    rw [if_pos rfl, Function.update_self]
    rfl
  · rw [if_neg fun h => hr (Option.some.inj h), Function.update_of_ne (Ne.symm hr), recordFor]

/-! ### All entries -/

theorem value_addEntry (done : List (Path × SettingsRecord)) :
    (addEntry host runtime global done e).value =
      (e.root? host).elim done fun root =>
        put root ((SettingsRecord.ofGlobal runtime global root).overlay e) done := by
  rw [addEntry, root?]
  cases Path.ofWorkspace? e.workspace <;> rfl

theorem value_addEntries_concat (done : List (Path × SettingsRecord)) :
    (addEntries host runtime global done (es ++ [e])).value =
      (addEntry host runtime global (addEntries host runtime global done es).value e).value := by
  induction es generalizing done with
  | nil => rfl
  | cons first es ih => exact ih _

theorem value_addEntries (es : List WorkspaceEntry) :
    (addEntries host runtime global [] es).value =
      (rootsNamed host es).map fun root => (root, recordFor host runtime global es root) := by
  induction es using List.reverseRecOn with
  | nil => rfl
  | append_singleton es e ih =>
    rw [value_addEntries_concat, value_addEntry, ih]
    cases h : e.root? host with
    | none => rw [rootsNamed_concat_of_none h, recordFor_concat_of_none h]; rfl
    | some root =>
      rw [rootsNamed_concat_of_some h, recordFor_concat_of_some h]
      exact put_map (fun _ => normalize_of_mem_rootsNamed) (nodup_eraseDups _)
        (normalize_of_root?_eq_some h) _ _

/-- **The records of a built store**: one for each root, in the order of the roots. -/
theorem workspaces_build (es : List WorkspaceEntry) :
    (build host runtime global es).value.workspaces =
      (rootsFor host es).map fun root => (root, recordFor host runtime global es root) := by
  cases es with
  | nil => rfl
  | cons e es => exact value_addEntries (e :: es)

/-- Without entries there is one record, for the current directory. -/
theorem workspaces_build_nil :
    (build host runtime global []).value.workspaces =
      [((currentRoot host).value, .ofGlobal runtime global (currentRoot host).value)] := rfl

/-- A record is what the last entry for its root says, over the global settings; no entry before
that one has a part in it. -/
theorem exists_last_of_mem_build {record : SettingsRecord} (hes : es ≠ [])
    (h : (root, record) ∈ (build host runtime global es).value.workspaces) :
    ∃ before last after, es = before ++ last :: after ∧ last.root? host = some root ∧
      (∀ later ∈ after, later.root? host ≠ some root) ∧
      record = (SettingsRecord.ofGlobal runtime global root).overlay last := by
  rw [workspaces_build, rootsFor, if_neg hes] at h
  obtain ⟨root, hr, ⟨⟩⟩ := List.mem_map.1 h
  obtain ⟨e, he, hroot⟩ := mem_rootsNamed.1 hr
  obtain ⟨before, last, after, hsplit, hlast, hafter, heq⟩ := exists_last?_of_mem he hroot
  exact ⟨before, last, after, hsplit, hlast, hafter, by rw [recordFor, heq]; rfl⟩

theorem roots_build (es : List WorkspaceEntry) :
    (build host runtime global es).value.roots = rootsFor host es := by
  rw [roots, workspaces_build, List.map_map]
  exact List.map_id' _

theorem global_build (es : List WorkspaceEntry) :
    (build host runtime global es).value.global = global := by
  cases es <;> rfl

theorem exclude_build (es : List WorkspaceEntry) :
    (build host runtime global es).value.exclude =
      (ExcludeMatcher.ofPatterns global.exclude).value := by
  cases es <;> rfl

/-! ### What agrees in a store -/

/-- Each part of a store that could be found from another part is what is found there. -/
structure Agreeing (s : Snapshot) : Prop where
  /-- No two records stand under one root. -/
  distinct : s.roots.Nodup
  /-- A record names its root, and the tool runs there. -/
  own : ∀ entry ∈ s.workspaces, entry.2.workspaceRoot = entry.1 ∧ entry.2.cwd = entry.1
  /-- The roots are in normal form. -/
  normal : ∀ root ∈ s.roots, root.normalize = root
  /-- The matcher is that for the patterns of the global settings. -/
  exclude : s.exclude = (ExcludeMatcher.ofPatterns s.global.exclude).value

theorem agreeing_empty : Agreeing empty :=
  ⟨List.nodup_nil, nofun, nofun, rfl⟩

theorem agreeing_build (es : List WorkspaceEntry) :
    Agreeing (build host runtime global es).value where
  distinct := by
    rw [roots_build, rootsFor]
    split_ifs
    · exact List.nodup_singleton _
    · exact nodup_eraseDups _
  own := by
    rw [workspaces_build]
    refine List.forall_mem_map.2 fun root _ => ?_
    rw [recordFor]
    cases last? host root es <;> exact ⟨rfl, rfl⟩
  normal := by
    rw [roots_build]
    exact forall_mem_rootsFor (host.normalize_absolutize _) fun _ _ p _ =>
      host.normalize_absolutize p
  exclude := by rw [exclude_build, global_build]

/-- Seen from an absolute directory all roots are absolute. -/
theorem isAbsolute_of_mem_rootsFor {dir : Path} (hdir : host.currentDir = .ok dir)
    (ha : dir.isAbsolute = true) : ∀ root ∈ rootsFor host es, root.isAbsolute = true := by
  have habs (p : Path) : (host.absolutize p).value.isAbsolute = true := by
    rw [host.absolutize_eq hdir]
    exact Path.isAbsolute_absoluteFrom ha p
  exact forall_mem_rootsFor (habs _) fun _ _ p _ => habs p

/-- There is no root exactly if there are entries and none of them names one. -/
theorem rootsFor_eq_nil_iff :
    rootsFor host es = [] ↔ es ≠ [] ∧ ∀ e ∈ es, Path.ofWorkspace? e.workspace = none := by
  rw [rootsFor]
  split_ifs with h
  · simp [h]
  · have hnone (e : WorkspaceEntry) :
        (∀ root, e.root? host ≠ some root) ↔ Path.ofWorkspace? e.workspace = none := by
      rw [← Option.eq_none_iff_forall_ne_some, root?, Option.map_eq_none_iff]
    rw [List.eq_nil_iff_forall_not_mem, and_iff_right h]
    simp only [mem_rootsNamed, ← hnone, not_exists, not_and]
    exact ⟨fun h e he root => h root e he, fun h root e he => h e he root⟩

end Snapshot

end ToolRelay
