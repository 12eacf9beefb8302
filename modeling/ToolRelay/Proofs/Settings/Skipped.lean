import ToolRelay.Proofs.Settings.History
import ToolRelay.Proofs.Uri.Scheme

/-!
# Workspaces that are skipped

A workspace given by a URI has a root only if the URI is that of a file and names a path here
(`Uri.NamesPath`).  The entry of any other one is skipped, and the store is as if it had not been
there.  But a text that begins with a scheme and is no URI is not skipped: it is taken for a path,
like a text without a scheme, although its flaw is another one.

* `Path.ofWorkspace?_eq_some_iff` : which path a text with a scheme is taken for;
* `Store.workspaces_change_of_skipped` : a skipped entry has no part in a store;
* `Store.schemed_skipped_iff` : **which workspaces with a scheme are skipped.**
-/

namespace ToolRelay

/-- A text is the URI of a file, and names a path of this computer. -/
def Uri.NamesPath (w : String) (p : Path) : Prop :=
  ∃ u, parse w = .ok u ∧ u.scheme = "file".toList ∧ u.toPath? = some p

/-! ### Texts with a scheme -/

section Texts

variable {w : String} {p : Path}

theorem Uri.Schemed.one_lt_length {u : Uri} (h : Schemed w) (hu : parse w = .ok u) :
    1 < u.scheme.length := by
  obtain ⟨scheme, rest, hscheme, hcut⟩ := h.exists_cutScheme
  rw [scheme_of_parse hcut hu]
  exact hscheme.one_lt_length

/-- A text with a scheme is no URI only where its host is refused. -/
theorem Uri.Schemed.parse_eq_error_iff {flaw : Flaw} (h : Schemed w) :
    parse w = .error flaw ↔
      ∃ scheme rest, cutScheme (trim w.toList) = some (scheme, rest) ∧
        Refused (.ofScheme scheme) rest flaw := by
  obtain ⟨scheme, rest, -, hcut⟩ := h.exists_cutScheme
  rw [Uri.parse_eq_error_iff, or_iff_right]
  rintro ⟨hnone, -⟩
  rw [hcut] at hnone
  contradiction

theorem Uri.Schemed.parse_ne_noScheme (h : Schemed w) : parse w ≠ .error .noScheme := by
  obtain ⟨scheme, rest, -, hcut⟩ := h.exists_cutScheme
  rw [ne_eq, parse_eq_noScheme_iff, hcut]
  nofun

/-- **Which path a text with a scheme is taken for**: the one that it names, or itself if it is no
URI. -/
theorem Path.ofWorkspace?_eq_some_iff (h : Uri.Schemed w) :
    ofWorkspace? w = some p ↔
      Uri.NamesPath w p ∨ (∃ flaw, Uri.parse w = .error flaw) ∧ p = ofString w := by
  rw [ofWorkspace?, Uri.NamesPath]
  cases hparse : Uri.parse w with
  | error flaw => simp [eq_comm]
  | ok u =>
    have hlength := h.one_lt_length hparse
    by_cases hfile : u.scheme = "file".toList
    · simp only [hfile, if_true]
      simp [hfile]
    · simp only [hfile, hlength, if_true, if_false]
      refine ⟨nofun, ?_⟩
      rintro (⟨_, ⟨⟩, hu, -⟩ | ⟨⟨_, ⟨⟩⟩, -⟩)
      exact absurd hu hfile

/-- **A text with a scheme is skipped** if it is a URI that names no path. -/
theorem Path.ofWorkspace?_eq_none_iff (h : Uri.Schemed w) :
    ofWorkspace? w = none ↔ (∃ u, Uri.parse w = .ok u) ∧ ∀ p, ¬ Uri.NamesPath w p := by
  constructor
  · intro hnone
    have hno : ∀ p, ¬ (Uri.NamesPath w p ∨ (∃ flaw, Uri.parse w = .error flaw) ∧ p = ofString w) :=
      fun p hp => by
        have hsome := (ofWorkspace?_eq_some_iff h).2 hp
        rw [hnone] at hsome
        contradiction
    refine ⟨?_, fun p hp => hno p (.inl hp)⟩
    cases hparse : Uri.parse w with
    | ok u => exact ⟨u, rfl⟩
    | error flaw => exact absurd (.inr ⟨⟨flaw, hparse⟩, rfl⟩) (hno (ofString w))
  · rintro ⟨⟨u, hu⟩, hno⟩
    refine Option.eq_none_iff_forall_ne_some.2 fun p hp => ?_
    obtain hnames | ⟨⟨flaw, hflaw⟩, -⟩ := (ofWorkspace?_eq_some_iff h).1 hp
    · exact hno p hnames
    · rw [hu] at hflaw
      contradiction

end Texts

/-! ### Entries that are skipped -/

namespace Snapshot

variable {host : Host} {runtime : Path} {global : GlobalSettings} {e : WorkspaceEntry}

/-- What is noted of an entry that is skipped. -/
def skipNote (e : WorkspaceEntry) : Event :=
  .note .warn ("Skipping settings for non-file workspace '" ++ e.workspace ++ "'")

theorem addEntry_of_skipped (h : Path.ofWorkspace? e.workspace = none)
    (done : List (Path × SettingsRecord)) :
    addEntry host runtime global done e = ⟨done, [skipNote e]⟩ := by
  rw [addEntry, h]
  rfl

/-- A skipped entry is noted, and the others are added as if it were not there. -/
theorem addEntries_of_skipped (h : Path.ofWorkspace? e.workspace = none)
    (before after : List WorkspaceEntry) (done : List (Path × SettingsRecord)) :
    (addEntries host runtime global done (before ++ e :: after)).value =
        (addEntries host runtime global done (before ++ after)).value ∧
      skipNote e ∈ (addEntries host runtime global done (before ++ e :: after)).events := by
  induction before generalizing done with
  | nil =>
    rw [List.nil_append, List.nil_append, addEntries, addEntry_of_skipped h]
    exact ⟨rfl, List.mem_cons_self ..⟩
  | cons first before ih =>
    obtain ⟨hvalue, hnote⟩ := ih (addEntry host runtime global done first).value
    exact ⟨hvalue, List.mem_append_right _ hnote⟩

theorem build_of_ne_nil {es : List WorkspaceEntry} (h : es ≠ []) :
    build host runtime global es = (do
      let workspaces ← addEntries host runtime global [] es
      let exclude ← ExcludeMatcher.ofPatterns global.exclude
      return ⟨global, exclude, workspaces⟩) := by
  cases es with
  | nil => contradiction
  | cons e es => rfl

end Snapshot

namespace Store

open Snapshot

variable {host : Host} {e : WorkspaceEntry} {before after : List WorkspaceEntry}

/-- **A skipped entry has no part in a store**: it is noted, and the roots and records are those of
the other entries. -/
theorem workspaces_change_of_skipped (s : Store) {c : Change}
    (hc : c.entries = before ++ e :: after) (h : Path.ofWorkspace? e.workspace = none) :
    (s.change host c).value.snapshot.workspaces =
        (rootsNamed host (before ++ after)).map (fun root => (root,
          recordFor host s.runtime (c.global?.getD s.snapshot.global) (before ++ after) root)) ∧
      skipNote e ∈ (s.change host c).events := by
  have hne : before ++ e :: after ≠ [] := by simp
  obtain ⟨hvalue, hnote⟩ := @addEntries_of_skipped host s.runtime
    (c.global?.getD s.snapshot.global) e h before after []
  have hpayload : c.payload.getD [] = before ++ e :: after := hc
  rw [change_eq_setUp, setUp, hpayload, build_of_ne_nil hne, ← value_addEntries, ← hvalue]
  exact ⟨rfl, List.mem_append_left _ (List.mem_append_left _ hnote)⟩

/-- An entry that names a root has it in the store. -/
theorem mem_roots_change (s : Store) {c : Change} (hc : c.entries = before ++ e :: after)
    {root : Path} (h : e.root? host = some root) :
    root ∈ (s.change host c).value.snapshot.roots := by
  have he : e ∈ c.entries := by simp [hc]
  have hne : c.entries ≠ [] := List.ne_nil_of_mem he
  rw [snapshot_change, roots_build, rootsFor, if_neg hne, mem_rootsNamed]
  exact ⟨e, he, h⟩

theorem root?_of_ofWorkspace? {p : Path} (h : Path.ofWorkspace? e.workspace = some p) :
    e.root? host = some (host.absolutize p).value := by
  rw [WorkspaceEntry.root?, h]
  rfl

/-- **Which workspaces with a scheme are skipped.**  Such a workspace is skipped unless it names a
path here, as long as it is a URI.  It is none where what stands in the place of its host is
refused; its flaw is then not that of a text without a scheme, but it is taken for a path all the
same.  A skipped entry has no part in the store that a call makes of it and other entries; one that
names a path, and one that is no URI, have a root there. -/
theorem schemed_skipped_iff {e : WorkspaceEntry} (h : Uri.Schemed e.workspace) :
    ((Path.ofWorkspace? e.workspace = none ∨
        ∃ p, Uri.NamesPath e.workspace p ∧ Path.ofWorkspace? e.workspace = some p) ↔
      ∃ u, Uri.parse e.workspace = .ok u) ∧
    (∀ flaw, Uri.parse e.workspace = .error flaw ↔
      ∃ scheme rest, Uri.cutScheme (Uri.trim e.workspace.toList) = some (scheme, rest) ∧
        Uri.Refused (.ofScheme scheme) rest flaw) ∧
    Uri.parse e.workspace ≠ .error .noScheme ∧
    (∀ flaw, Uri.parse e.workspace = .error flaw →
      Path.ofWorkspace? e.workspace = some (Path.ofString e.workspace)) ∧
    ∀ (host : Host) (s : Store) (c : Change) (before after : List WorkspaceEntry),
      c.entries = before ++ e :: after →
      let built := s.change host c
      let others := before ++ after
      let global := c.global?.getD s.snapshot.global
      ((∃ u, Uri.parse e.workspace = .ok u) → (∀ p, ¬ Uri.NamesPath e.workspace p) →
        built.value.snapshot.workspaces =
            (rootsNamed host others).map
              (fun root => (root, recordFor host s.runtime global others root)) ∧
          skipNote e ∈ built.events) ∧
      (∀ p, Uri.NamesPath e.workspace p →
        (host.absolutize p).value ∈ built.value.snapshot.roots) ∧
      ∀ flaw, Uri.parse e.workspace = .error flaw →
        (host.absolutize (Path.ofString e.workspace)).value ∈ built.value.snapshot.roots := by
  have hnamed : ∀ p, Uri.NamesPath e.workspace p → Path.ofWorkspace? e.workspace = some p :=
    fun p hp => (Path.ofWorkspace?_eq_some_iff h).2 (.inl hp)
  have hflawed : ∀ flaw, Uri.parse e.workspace = .error flaw →
      Path.ofWorkspace? e.workspace = some (Path.ofString e.workspace) :=
    fun flaw hflaw => (Path.ofWorkspace?_eq_some_iff h).2 (.inr ⟨⟨flaw, hflaw⟩, rfl⟩)
  refine ⟨⟨?_, fun hread => ?_⟩, fun flaw => h.parse_eq_error_iff, h.parse_ne_noScheme, hflawed,
    fun host s c before after hc => ⟨fun hread hno => ?_, fun p hp => ?_, fun flaw hflaw => ?_⟩⟩
  · rintro (hnone | ⟨p, ⟨u, hu, -⟩, -⟩)
    · exact ((Path.ofWorkspace?_eq_none_iff h).1 hnone).1
    · exact ⟨u, hu⟩
  · by_cases hp : ∃ p, Uri.NamesPath e.workspace p
    · obtain ⟨p, hp⟩ := hp
      exact .inr ⟨p, hp, hnamed p hp⟩
    · exact .inl ((Path.ofWorkspace?_eq_none_iff h).2 ⟨hread, not_exists.1 hp⟩)
  · exact workspaces_change_of_skipped s hc ((Path.ofWorkspace?_eq_none_iff h).2 ⟨hread, hno⟩)
  · exact mem_roots_change s hc (root?_of_ofWorkspace? (hnamed p hp))
  · exact mem_roots_change s hc (root?_of_ofWorkspace? (hflawed flaw hflaw))

/-- A workspace that is no file. -/
def untitledEntry : WorkspaceEntry := ⟨"untitled:Untitled-1", none, none, none, none, none⟩

/-- A workspace whose host is missing. -/
def hostlessEntry : WorkspaceEntry := ⟨"http://", none, none, none, none, none⟩

theorem schemed_untitled : Uri.Schemed untitledEntry.workspace :=
  ⟨"untitled".toList, "Untitled-1".toList,
    ⟨'u', "ntitled".toList, rfl, by decide, by decide, List.all_eq_true.1 rfl⟩, rfl⟩

theorem schemed_hostless : Uri.Schemed hostlessEntry.workspace :=
  ⟨"http".toList, "//".toList,
    ⟨'h', "ttp".toList, rfl, by decide, by decide, List.all_eq_true.1 rfl⟩, rfl⟩

theorem parse_untitled : Uri.parse untitledEntry.workspace =
    .ok ⟨"untitled".toList, none, "Untitled-1".toList, none, none⟩ := by rfl

theorem parse_hostless : Uri.parse hostlessEntry.workspace = .error .noHost := by rfl

theorem not_namesPath_untitled (p : Path) : ¬ Uri.NamesPath untitledEntry.workspace p := by
  rintro ⟨u, hu, hfile, -⟩
  rw [parse_untitled] at hu
  cases hu
  exact absurd hfile (by decide)

/-- Of these two entries the first one is skipped, the second one is not. -/
theorem schemed_skipped_untitled :
    let built := (new ⟨[]⟩).change rootHost (.replace (some [untitledEntry, hostlessEntry]))
    skipNote untitledEntry ∈ built.events ∧
      (rootHost.absolutize (Path.ofString "http://")).value ∈ built.value.snapshot.roots :=
  ⟨((schemed_skipped_iff schemed_untitled).2.2.2.2 rootHost (new ⟨[]⟩)
      (.replace (some [untitledEntry, hostlessEntry])) [] [hostlessEntry] rfl).1
      ⟨_, parse_untitled⟩ not_namesPath_untitled |>.2,
    ((schemed_skipped_iff schemed_hostless).2.2.2.2 rootHost (new ⟨[]⟩)
      (.replace (some [untitledEntry, hostlessEntry])) [untitledEntry] [] rfl).2.2
      .noHost parse_hostless⟩

/-- The entry `http://` names no file of this computer, but has a root. -/
theorem hostless_not_skipped :
    ¬ (∀ e : WorkspaceEntry, Uri.Schemed e.workspace → Path.ofWorkspace? e.workspace = none ∨
        ∃ p, Uri.NamesPath e.workspace p) ∧
      ((new ⟨[]⟩).change rootHost (.replace (some [hostlessEntry]))).value.snapshot.roots =
        [Path.ofString "/http:"] := by
  refine ⟨fun h => ?_, by decide +kernel⟩
  obtain hnone | ⟨p, u, hu, -⟩ := h hostlessEntry schemed_hostless
  · rw [Path.ofWorkspace?, parse_hostless] at hnone
    contradiction
  · rw [parse_hostless] at hu
    contradiction

end Store

end ToolRelay
