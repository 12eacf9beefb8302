import ToolRelay.Proofs.Dispatch.Filter
import ToolRelay.Proofs.Path.Canonical
import ToolRelay.Proofs.Path.Comparison
import ToolRelay.Proofs.Settings.Store

/-!
# The directories of the standard library

A document is compared with the directories of the standard library after it has been made
absolute, but the directories themselves are only normalized.  So nothing lies below a directory
that is given by a relative path, unless its normal form is empty: everything lies below the empty
path, although it is the current directory that is given.

* `Path.prefix_of_relative_iff` : what lies below a relative path;
* `Host.absolutize_of_normalize_eq_empty` : a path whose normal form is empty is the current
  directory;
* `Preparation.library_overreaches_iff` : **which documents are taken for the library.**
-/

namespace ToolRelay

namespace Path

variable {p root : Path}

/-- Among text, a path in normal form is compared exactly. -/
theorem isWithin_place_iff (hp : IsPlace p) (ht : Utf8.WellFormed root.bytes) :
    p.isWithin root = true ↔ root.normalize.components <+: p.components := by
  have hnormal : Utf8.WellFormed p.normalize.bytes := by
    rw [hp.normalize_eq]
    exact hp.wellFormed
  rw [(told_of_text (wellFormed_normalize ht) hnormal).isWithin_iff, hp.normalize_eq]

/-- No absolute path lies below a relative one, unless its normal form is empty. -/
theorem prefix_of_relative_iff (hp : IsPlace p) (hroot : root.isAbsolute = false) :
    root.normalize.components <+: p.components ↔ root.normalize = ⟨[]⟩ := by
  constructor
  · intro h
    have hlayout := layout_components root.normalize
    rw [isAbsolute_normalize, hroot] at hlayout
    rw [← ofComponents_normalize]
    cases hcs : root.normalize.components with
    | nil => rfl
    | cons c cs =>
      -- an absolute path begins with the root, a relative one does not
      obtain ⟨names, hnames, rfl⟩ := hp
      rw [hcs, components_rooted fun bs hbs => (hnames bs hbs).1, List.cons_prefix_cons] at h
      rw [hcs, h.1] at hlayout
      cases hlayout with
      | plain hinner => cases hinner .root (List.mem_cons_self ..)
  · intro h
    rw [h]
    exact List.nil_prefix

end Path

namespace Host

variable {host : Host} {dir root : Path}

/-- **A path whose normal form is empty is the current directory.** -/
theorem absolutize_of_normalize_eq_empty (hdir : host.currentDir = .ok dir)
    (h : root.normalize = ⟨[]⟩) : (host.absolutize root).value = dir.normalize := by
  have hrelative : root.isAbsolute = false := by
    rw [← Path.isAbsolute_normalize, h]
    rfl
  rw [absolutize_eq hdir, Traced.value_pure, Path.absoluteFrom, hrelative, if_neg (by decide),
    ← Path.normalize_join_normalize dir hrelative, h, Path.normalize_join_empty]

end Host

namespace Preparation

variable {host : Host} {roots : List Path}

/-- A path is a directory, as a host sees it, or lies below it. -/
def Below (host : Host) (root p : Path) : Prop :=
  (host.absolutize root).value.components <+: p.components

theorem isWithin_below_iff {p root : Path} (hp : p.IsPlace) (ht : Utf8.WellFormed root.bytes) :
    p.isWithin root = true ↔
      root.isAbsolute = true ∧ Below host root p ∨ root.normalize = ⟨[]⟩ := by
  rw [Path.isWithin_place_iff hp ht]
  cases habs : root.isAbsolute with
  | true =>
    have hnonempty : root.normalize ≠ ⟨[]⟩ := fun h => by
      rw [← Path.isAbsolute_normalize, h] at habs
      contradiction
    rw [Below, Host.absolutize, if_pos habs, and_iff_right rfl, or_iff_left hnonempty]
    rfl
  | false => rw [Path.prefix_of_relative_iff hp habs, or_iff_right fun h => Bool.false_ne_true h.1]

/-- **What is taken for part of the library**: what lies below an absolute directory, and
everything if the normal form of a directory is empty. -/
theorem isInLibrary_place_iff {p : Path} (hp : p.IsPlace)
    (hroots : ∀ root ∈ roots, Utf8.WellFormed root.bytes) :
    Document.isInLibrary p roots = true ↔
      (∃ root ∈ roots, root.isAbsolute = true ∧ Below host root p) ∨
        ∃ root ∈ roots, root.normalize = ⟨[]⟩ := by
  have hroot : ∀ root ∈ roots, (p.isWithin root = true ↔
      root.isAbsolute = true ∧ Below host root p ∨ root.normalize = ⟨[]⟩) := fun root hmem =>
    isWithin_below_iff hp (hroots root hmem)
  simp only [Document.isInLibrary, List.any_eq_true]
  constructor
  · rintro ⟨root, hmem, h⟩
    obtain h | h := (hroot root hmem).1 h
    · exact .inl ⟨root, hmem, h⟩
    · exact .inr ⟨root, hmem, h⟩
  · rintro (⟨root, hmem, h⟩ | ⟨root, hmem, h⟩)
    · exact ⟨root, hmem, (hroot root hmem).2 (.inl h)⟩
    · exact ⟨root, hmem, (hroot root hmem).2 (.inr h)⟩

/-- **Which documents are taken for the library although they are not.**  A document is taken for
part of the library if it lies below an absolute directory of the library, or if the normal form of
one of the directories is empty; that one is the current directory.  So the library reaches outside
of its directories exactly if there is such a directory and the document lies below none of them.
It is for this reason, and no other, that a document is left out as part of the library, if it is
no cell and its text passes the check. -/
theorem library_overreaches_iff {host : Host} (hh : host.IsPlaced) {document : Path}
    (hdoc : Utf8.WellFormed document.bytes) {roots : List Path}
    (hroots : ∀ root ∈ roots, Utf8.WellFormed root.bytes) :
    let p := (host.absolutize document).value
    (Document.isInLibrary p roots = true ↔
      (∃ root ∈ roots, root.isAbsolute = true ∧ Below host root p) ∨
        ∃ root ∈ roots, root.normalize = ⟨[]⟩) ∧
    (∀ root dir, root.normalize = ⟨[]⟩ → host.currentDir = .ok dir →
      (host.absolutize root).value = dir.normalize) ∧
    ((Document.isInLibrary p roots = true ∧ ∀ root ∈ roots, ¬ Below host root p) ↔
      (∃ root ∈ roots, root.normalize = ⟨[]⟩) ∧ ∀ root ∈ roots, ¬ Below host root p) ∧
    ∀ (prep : Preparation) (d : Document) (useStdin : Bool) (extra : List String),
      d.path = some document → prep.store.snapshot.global.stdlibPaths = roots → ¬ IsCell d →
      prep.check d.source = none →
      (skip? (prep.document host d useStdin extra).value = some .standardLibrary ↔
        Document.isInLibrary p roots = true) := by
  intro p
  have hp : p.IsPlace := hh.isPlace_absolutize hdoc
  have hlibrary := @isInLibrary_place_iff host roots p hp hroots
  refine ⟨hlibrary, fun root dir h hdir => Host.absolutize_of_normalize_eq_empty hdir h, ?_, ?_⟩
  · refine and_congr_left fun hnone => ?_
    rw [hlibrary, or_iff_right]
    rintro ⟨root, hmem, -, hbelow⟩
    exact hnone root hmem hbelow
  · intro prep d useStdin extra hpath hstdlib hcell hcheck
    have hpath : (absolutePath host d).value = some p := by
      rw [absolutePath, hpath]
      rfl
    rw [skip?_document_iff, Decides, and_iff_right hcell, and_iff_right hcheck, ← isInLibrary_iff,
      hpath, isInLibrary, Option.any_some, hstdlib]

/-- The current directory `/w`, and nothing else. -/
def workHost : Host := { Store.rootHost with currentDir := .ok (Path.ofString "/w") }

/-- Runs of a tool where the library is the current directory. -/
def dottedPreparation : Preparation :=
  ⟨.standard, ((Store.new ⟨[]⟩).setUp workHost
    { GlobalSettings.empty with stdlibPaths := [Path.ofString "."] } none).value,
    fun _ => none, ⟨.off⟩⟩

/-- A document outside of that directory. -/
def strayDocument : Document := .ofPath (Path.ofString "/x/a") ""

theorem isPlaced_workHost : workHost.IsPlaced := ⟨_, rfl, by decide, Utf8.wellFormed_encode "/w"⟩

theorem library_overreaches_dotted :
    skip? (dottedPreparation.document workHost strayDocument false []).value =
      some .standardLibrary := by
  have hroots : ∀ root ∈ [Path.ofString "."], Utf8.WellFormed root.bytes :=
    List.forall_mem_singleton.2 (Utf8.wellFormed_encode ".")
  have hcell : ¬ IsCell strayDocument := by
    rw [← isNotebookCell_iff]
    decide +kernel
  have hlibrary := (library_overreaches_iff isPlaced_workHost (Utf8.wellFormed_encode "/x/a")
    hroots).2.2.2 dottedPreparation strayDocument false [] rfl rfl hcell rfl
  exact hlibrary.2 (by decide +kernel)

/-- A document outside of the only directory of the library is taken for part of it. -/
theorem library_reaches_outside :
    ¬ ∀ (host : Host) (document : Path) (roots : List Path), host.IsPlaced →
      document.isAbsolute = true → Utf8.WellFormed document.bytes →
      (∀ root ∈ roots, Utf8.WellFormed root.bytes) →
      Document.isInLibrary (host.absolutize document).value roots = true →
      ∃ root ∈ roots, Below host root (host.absolutize document).value := by
  intro h
  obtain ⟨root, hmem, hbelow⟩ := h workHost (Path.ofString "/x/a") [Path.ofString "."]
    isPlaced_workHost (by decide) (Utf8.wellFormed_encode "/x/a")
    (List.forall_mem_singleton.2 (Utf8.wellFormed_encode ".")) (by decide +kernel)
  obtain rfl := List.mem_singleton.1 hmem
  revert hbelow
  rw [Below]
  decide +kernel

end Preparation

end ToolRelay
