import ToolRelay.Proofs.Settings.Build
import Mathlib.Data.List.Find

/-!
# The settings store

A store keeps its records in order under roots that are distinct and in normal form (`Kept`), so
the two ways in which it looks for a root agree.  For a document it looks at the directories around
it from the inside out, and finds the record whose root is the nearest one.

* `Snapshot.kept_build` : what is built is kept so.
* `Snapshot.Kept.find?_records` : the lookup by key and the comparison of all roots agree.
* `Snapshot.Kept.finds_ancestors` : the first record found is that of the nearest root.
* `Store.resolve_nearest` : the record for a document is that of the nearest root around it, in
  every store that can be reached.
-/

namespace ToolRelay

namespace Snapshot

/-- Records under roots that are distinct, in normal form and such as `P` says; each record names
the root it stands under. -/
structure Kept (P : Path → Prop) (entries : List (Path × SettingsRecord)) : Prop where
  /-- A record names its root. -/
  own : ∀ entry ∈ entries, entry.2.workspaceRoot = entry.1
  /-- The roots are in normal form. -/
  normal : ∀ entry ∈ entries, entry.1.normalize = entry.1
  /-- The roots are such as `P` says. -/
  roots : ∀ entry ∈ entries, P entry.1
  /-- No two records stand under one root. -/
  distinct : (entries.map (·.1)).Nodup

variable {P : Path → Prop}

theorem kept_nil : Kept P [] := ⟨nofun, nofun, nofun, List.nodup_nil⟩

/-- **What is built is kept under roots as they should be**: those of the entries, or the current
directory. -/
theorem kept_build {host : Host} (runtime : Path) (global : GlobalSettings)
    {es : List WorkspaceEntry} (hdir : P (currentRoot host).value)
    (hes : ∀ e ∈ es, ∀ p, Path.ofWorkspace? e.workspace = some p →
      P (host.absolutize p).value) :
    Kept P (build host runtime global es).value.workspaces := by
  have h : Agreeing (build host runtime global es).value := agreeing_build es
  have hP : ∀ root ∈ (build host runtime global es).value.roots, P root := by
    rw [roots_build]
    exact forall_mem_rootsFor hdir hes
  exact ⟨fun entry he => (h.own entry he).1, fun _ he => h.normal _ (List.mem_map_of_mem he),
    fun _ he => hP _ (List.mem_map_of_mem he), h.distinct⟩

/-! ### Looking for a root -/

variable {s : Snapshot}

/-- **The lookup by key and the comparison of all roots agree** on places. -/
theorem Kept.find?_records (h : Kept Path.IsPlace s.workspaces) {dir : Path} (hd : dir.IsPlace) :
    s.records.find? (·.workspaceRoot.same dir) =
      (s.workspaces.find? (·.1.agrees dir)).map (·.2) := by
  have hsame : ∀ entry ∈ s.workspaces,
      entry.2.workspaceRoot.same dir = entry.1.agrees dir := fun entry he => by
    rw [h.own entry he, Bool.eq_iff_iff, (h.roots entry he).same_iff hd,
      (h.roots entry he).agrees_iff hd]
  rw [records, List.find?_map]
  exact congrArg _ (List.find?_congr hsame)

theorem Kept.find?_eq_none (h : Kept Path.IsPlace s.workspaces) {dir : Path} (hd : dir.IsPlace)
    (hr : dir ∉ s.roots) : s.find? dir = none := by
  have hnone : s.workspaces.find? (·.1.agrees dir) = none := by
    rw [List.find?_eq_none]
    intro entry he ha
    exact hr (((h.roots entry he).agrees_iff hd).1 ha ▸ List.mem_map_of_mem he)
  rw [find?, hnone, h.find?_records hd, hnone]
  rfl

theorem Kept.eq_of_root_eq (h : Kept P s.workspaces) {entry other : Path × SettingsRecord}
    (he : entry ∈ s.workspaces) (ho : other ∈ s.workspaces) (hr : other.1 = entry.1) :
    other = entry :=
  List.inj_on_of_nodup_map h.distinct ho he hr

theorem Kept.find?_eq_some (h : Kept Path.IsPlace s.workspaces) {entry : Path × SettingsRecord}
    (he : entry ∈ s.workspaces) : s.find? entry.1 = some entry.2 := by
  have hself := ((h.roots entry he).agrees_iff (h.roots entry he)).2 rfl
  obtain ⟨other, hf⟩ := Option.isSome_iff_exists.1
    (List.find?_isSome (p := (·.1.agrees entry.1)) |>.2 ⟨entry, he, hself⟩)
  have ho := List.mem_of_find?_eq_some hf
  have ha : other.1.agrees entry.1 = true := by simpa using List.find?_some hf
  have hr := ((h.roots other ho).agrees_iff (h.roots entry he)).1 ha
  rw [find?, hf, h.eq_of_root_eq he ho hr]

/-! ### The nearest root -/

/-- The entry with the longest root among those whose roots begin a path. -/
def Nearest (s : Snapshot) (cs : List Component) (entry : Path × SettingsRecord) : Prop :=
  entry ∈ s.workspaces ∧ entry.1.components <+: cs ∧
    ∀ other ∈ s.workspaces, other.1.components <+: cs →
      other = entry ∨ other.1.components.length < entry.1.components.length

/-- What is found where records are looked for from the inside out. -/
def Finds (s : Snapshot) (cs : List Component) : Option SettingsRecord → Prop
  | some record => ∃ entry, s.Nearest cs entry ∧ entry.2 = record
  | none => ∀ root ∈ s.roots, ¬ root.components <+: cs

theorem Kept.nearest_self (h : Kept Path.IsPlace s.workspaces) {entry : Path × SettingsRecord}
    (he : entry ∈ s.workspaces) : s.Nearest entry.1.components entry := by
  refine ⟨he, List.prefix_refl _, fun other ho hp => ?_⟩
  obtain hlt | heq := Nat.lt_or_eq_of_le hp.length_le
  · exact .inr hlt
  · have hr := (h.roots other ho).eq_of_components (h.roots entry he) (hp.eq_of_length heq)
    exact .inl (h.eq_of_root_eq he ho hr)

/-- A root around a directory is the directory itself or around the one it lies in. -/
theorem Kept.prefix_concat (h : Kept Path.IsPlace s.workspaces) {dir root : Path}
    (hd : dir.IsPlace) (hdir : dir ∉ s.roots) {cs : List Component} {c : Component}
    (hc : dir.components = cs ++ [c]) (hr : root ∈ s.roots)
    (hp : root.components <+: dir.components) : root.components <+: cs := by
  rw [hc, List.prefix_concat_iff, ← hc] at hp
  obtain heq | hp := hp
  · obtain ⟨entry, he, rfl⟩ := List.mem_map.1 hr
    exact absurd ((h.roots entry he).eq_of_components hd heq ▸ hr) hdir
  · exact hp

/-- One directory more on the inside. -/
theorem Kept.finds_cons (h : Kept Path.IsPlace s.workspaces) {dir : Path} (hd : dir.IsPlace)
    {cs : List Component} {c : Component} (hc : dir.components = cs ++ [c]) {dirs : List Path}
    (hf : s.Finds cs (s.firstOf dirs)) : s.Finds dir.components (s.firstOf (dir :: dirs)) := by
  -- a root that is the directory itself is the longest; otherwise all roots are further out
  by_cases hdir : dir ∈ s.roots
  · obtain ⟨entry, he, rfl⟩ := List.mem_map.1 hdir
    rw [firstOf, h.find?_eq_some he]
    exact ⟨entry, h.nearest_self he, rfl⟩
  · have hup {root : Path} (hr : root ∈ s.roots) (hp : root.components <+: dir.components) :=
      h.prefix_concat hd hdir hc hr hp
    rw [firstOf, h.find?_eq_none hd hdir]
    cases hr : s.firstOf dirs with
    | none =>
      rw [hr] at hf
      exact fun root hroot hp => hf root hroot (hup hroot hp)
    | some record =>
      rw [hr] at hf
      obtain ⟨entry, ⟨he, hpre, hlong⟩, heq⟩ := hf
      refine ⟨entry, ⟨he, hc ▸ hpre.trans (List.prefix_append _ _), fun other ho hp => ?_⟩, heq⟩
      exact hlong other ho (hup (List.mem_map_of_mem ho) hp)

/-- **From the inside out, the first record found is that of the nearest root.** -/
theorem Kept.finds_ancestors (h : Kept Path.IsPlace s.workspaces) {dir : Path}
    (hd : dir.IsPlace) : s.Finds dir.components (s.firstOf dir.ancestors) := by
  refine Path.IsPlace.induction
    (motive := fun dir => s.Finds dir.components (s.firstOf dir.ancestors)) ?_ ?_ hd
  · have hnone : s.Finds [] (s.firstOf []) := fun root hr hp => by
      obtain ⟨entry, he, rfl⟩ := List.mem_map.1 hr
      exact (h.roots entry he).components_ne_nil (List.prefix_nil.1 hp)
    exact h.finds_cons ⟨[], nofun, rfl⟩ rfl hnone
  · intro p q c _ hq hc ha ih
    rw [ha]
    exact h.finds_cons hq hc ih

end Snapshot

/-! ### Reachable stores -/

/-- The current directory can be read, is absolute and is text. -/
def Host.IsPlaced (host : Host) : Prop :=
  ∃ dir, host.currentDir = .ok dir ∧ dir.isAbsolute = true ∧ Utf8.WellFormed dir.bytes

/-- The root that an entry names is text, if it names one. -/
def WorkspaceEntry.IsText (e : WorkspaceEntry) : Prop :=
  ∀ p, Path.ofWorkspace? e.workspace = some p → Utf8.WellFormed p.bytes

theorem Host.IsPlaced.isPlace_absolutize {host : Host} (h : host.IsPlaced) {p : Path}
    (hp : Utf8.WellFormed p.bytes) : (host.absolutize p).value.IsPlace := by
  obtain ⟨dir, hdir, ha, ht⟩ := h
  rw [host.absolutize_eq hdir]
  exact Path.isPlace_absoluteFrom ha ht hp

namespace Store

/-- A store that sessions on placed hosts can have. -/
inductive Reachable : Store → Prop where
  /-- A new store. -/
  | new (runtime : Path) : Reachable (.new runtime)
  /-- A session is opened. -/
  | setUp {s : Store} {host : Host} {entries : Option (List WorkspaceEntry)} (h : Reachable s)
      (hh : host.IsPlaced) (global : GlobalSettings) (he : ∀ e ∈ entries.getD [], e.IsText) :
      Reachable (s.setUp host global entries).value
  /-- The configuration is changed. -/
  | replace {s : Store} {host : Host} {entries : Option (List WorkspaceEntry)} (h : Reachable s)
      (hh : host.IsPlaced) (he : ∀ e ∈ entries.getD [], e.IsText) :
      Reachable (s.replace host entries).value

theorem kept_setUp {host : Host} (s : Store) (hh : host.IsPlaced) (global : GlobalSettings)
    {entries : Option (List WorkspaceEntry)} (he : ∀ e ∈ entries.getD [], e.IsText) :
    Snapshot.Kept Path.IsPlace (s.setUp host global entries).value.snapshot.workspaces := by
  refine Snapshot.kept_build s.runtime global ?_ fun e hmem p hp =>
    hh.isPlace_absolutize (he e hmem p hp)
  -- without entries the only root is the current directory
  obtain ⟨dir, hdir, -, ht⟩ := id hh
  have hcur : (Snapshot.currentRoot host).value = (host.absolutize dir).value := by
    rw [Snapshot.currentRoot, Host.workingDir, hdir]
    rfl
  rw [hcur]
  exact hh.isPlace_absolutize ht

theorem Reachable.kept {s : Store} (h : s.Reachable) :
    Snapshot.Kept Path.IsPlace s.snapshot.workspaces := by
  cases h with
  | new => exact Snapshot.kept_nil
  | setUp _ hh global he => exact kept_setUp _ hh global he
  | replace _ hh he => exact kept_setUp _ hh _ he

/-- **The nearest root around a document wins.**  Among the roots that are the directory of the
document or above it there is one with most components, and the record under it is the record for
the document; where there is none the record is made from the global settings.  On the way the two
lookups never disagree. -/
theorem resolve_nearest {s : Store} (hs : s.Reachable) {host : Host} (hh : host.IsPlaced)
    {document : Path} (hdoc : Utf8.WellFormed document.bytes) :
    let p := (host.absolutize document).value
    let dir := p.parent?.getD p
    ((∃ root ∈ s.snapshot.roots, root.components <+: dir.components) →
      ∃ entry, s.snapshot.Nearest dir.components entry ∧
        s.resolve host (some document) = pure entry.2) ∧
    ((∀ root ∈ s.snapshot.roots, ¬ root.components <+: dir.components) →
      let record := SettingsRecord.ofGlobal s.runtime s.snapshot.global dir
      s.resolve host (some document) = pure record ∧
        record.workspaceRoot = dir ∧ record.cwd = dir) ∧
    ∀ above ∈ dir.ancestors, s.snapshot.records.find? (·.workspaceRoot.same above) =
      (s.snapshot.workspaces.find? (·.1.agrees above)).map (·.2) := by
  intro p dir
  have hdir : dir.IsPlace := (hh.isPlace_absolutize hdoc).parent
  have hfinds := hs.kept.finds_ancestors hdir
  have hresolve : s.resolve host (some document) =
      match s.snapshot.firstOf dir.ancestors with
      | some record => pure record
      | none => pure (SettingsRecord.ofGlobal s.runtime s.snapshot.global dir) := by
    obtain ⟨cwd, hcwd, -⟩ := hh
    have hp : host.absolutize document = pure p := by
      rw [host.absolutize_eq hcwd, show p = Path.absoluteFrom cwd document from
        congrArg Traced.value (host.absolutize_eq hcwd document)]
    rw [resolve, Snapshot.resolve, hp]
    rfl
  refine ⟨fun ⟨root, hr, hp⟩ => ?_, fun hnone => ?_, fun above ha =>
    hs.kept.find?_records (hdir.of_mem_ancestors above ha)⟩
  · cases hf : s.snapshot.firstOf dir.ancestors with
    | none =>
      rw [hf] at hfinds
      exact absurd hp (hfinds root hr)
    | some record =>
      rw [hf] at hfinds
      obtain ⟨entry, hnear, rfl⟩ := hfinds
      exact ⟨entry, hnear, by rw [hresolve, hf]⟩
  · cases hf : s.snapshot.firstOf dir.ancestors with
    | none => exact ⟨by rw [hresolve, hf], rfl, rfl⟩
    | some record =>
      rw [hf] at hfinds
      obtain ⟨entry, ⟨he, hp, -⟩, -⟩ := hfinds
      exact absurd hp (hnone entry.1 (List.mem_map_of_mem he))

/-- The current directory `/`, and nothing else. -/
def rootHost : Host where
  currentDir := .ok (Path.ofString "/")
  readFile _ := .error .notFound
  kind? _ := none
  start _ := .error .notFound

/-- Two workspaces, the outer one first. -/
def nestedEntries : List WorkspaceEntry :=
  [⟨"/a", none, none, some ["--outer"], none, none⟩,
    ⟨"file:///a/b/", none, none, some ["--inner"], none, none⟩]

/-- A store with two workspaces. -/
def nestedStore : Store := ((new ⟨[]⟩).replace rootHost (some nestedEntries)).value

theorem isPlaced_rootHost : rootHost.IsPlaced := ⟨_, rfl, rfl, Utf8.wellFormed_encode "/"⟩

theorem isText_nestedEntries : ∀ e ∈ nestedEntries, e.IsText := by
  have houter : Path.ofWorkspace? "/a" = some (Path.ofString "/a") := by decide +kernel
  have hinner : Path.ofWorkspace? "file:///a/b/" = some (Path.ofString "/a/b/") := by
    decide +kernel
  refine List.forall_mem_cons.2 ⟨fun p hp => ?_, List.forall_mem_singleton.2 fun p hp => ?_⟩
  · obtain rfl := Option.some.inj (houter.symm.trans hp)
    exact Utf8.wellFormed_encode "/a"
  · obtain rfl := Option.some.inj (hinner.symm.trans hp)
    exact Utf8.wellFormed_encode "/a/b/"

theorem resolve_nearest_nested :
    ∃ entry, nestedStore.snapshot.Nearest (Path.ofString "/a/b/c").components entry ∧
      nestedStore.resolve rootHost (some (Path.ofString "a//b/./x/../c/file")) =
        pure entry.2 := by
  have hs : nestedStore.Reachable := .replace (.new _) isPlaced_rootHost isText_nestedEntries
  have hroot : ∃ root ∈ nestedStore.snapshot.roots,
      root.components <+: (Path.ofString "/a/b/c").components :=
    ⟨Path.ofString "/a", by decide +kernel, by decide +kernel⟩
  exact (resolve_nearest hs isPlaced_rootHost
    (Utf8.wellFormed_encode "a//b/./x/../c/file")).1 hroot

example : (nestedStore.resolve rootHost
    (some (Path.ofString "a//b/./x/../c/file"))).value.extraArgs = ["--inner"] := by
  decide +kernel

end Store

end ToolRelay
