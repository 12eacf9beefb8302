import ToolRelay.Proofs.Dispatch.Respelling
import ToolRelay.Proofs.Uri.File
import ToolRelay.Session.Basic

/-!
# Files by their paths and by their URIs

A workspace is named by a path or by a URI, and a document comes from a path or from the URI that
the editor has for it.  The URI of an absolute path in normal form leads back to the path
(`Path.exists_ofWorkspace?_nameOf`), so it makes no difference which of the two is given.

* `Snapshot.addEntry_nameOf` : the record of a workspace stands under the same root;
* `Preparation.value_document_documentOf` : the same is prepared for a document;
* `Path.named_back` : both, and that no other path has the URI.
-/

namespace ToolRelay

variable {host : Host} {p : Path}

theorem WorkspaceEntry.root?_of_normalize {e : WorkspaceEntry} (ha : p.isAbsolute = true)
    (he : (Path.ofString e.workspace).normalize = p) : e.root? host = some p := by
  have habs : (Path.ofString e.workspace).isAbsolute = true := by
    rw [← Path.isAbsolute_normalize, he, ha]
  rw [root?, Path.ofWorkspace?_of_isAbsolute habs, Option.map_some,
    host.absolutize_of_isAbsolute habs, he]
  rfl

theorem WorkspaceEntry.root?_nameOf (ha : p.isAbsolute = true) (hn : p.normalize = p)
    (e : WorkspaceEntry) : { e with workspace := Uri.nameOf p }.root? host = some p := by
  obtain ⟨q, hq, -, hqa, hqn⟩ := Path.exists_ofWorkspace?_nameOf ha hn
  rw [root?, hq, Option.map_some, host.absolutize_of_isAbsolute hqa, hqn]
  rfl

/-- It makes no difference whether a workspace is named by a path or by its URI. -/
theorem Snapshot.addEntry_nameOf (ha : p.isAbsolute = true) (hn : p.normalize = p)
    {e : WorkspaceEntry} (he : (Path.ofString e.workspace).normalize = p) (runtime : Path)
    (global : GlobalSettings) (done : List (Path × SettingsRecord)) :
    addEntry host runtime global done { e with workspace := Uri.nameOf p } =
      addEntry host runtime global done e := by
  have habs : (Path.ofString e.workspace).isAbsolute = true := by
    rw [← Path.isAbsolute_normalize, he, ha]
  obtain ⟨q, hq, -, hqa, hqn⟩ := Path.exists_ofWorkspace?_nameOf ha hn
  rw [addEntry, addEntry, hq, Path.ofWorkspace?_of_isAbsolute habs]
  simp only
  rw [host.absolutize_of_isAbsolute hqa, host.absolutize_of_isAbsolute habs, hqn, he]
  rfl

/-- It makes no difference whether a document comes from a path or from its URI. -/
theorem Preparation.value_document_documentOf (ha : p.isAbsolute = true) (hn : p.normalize = p)
    (preparation : Preparation) (source : String) (useStdin : Bool) (extra : List String) :
    (preparation.document host (Session.documentOf (Uri.ofPath p) source) useStdin extra).value =
      (preparation.document host (.ofPath p source) useStdin extra).value := by
  obtain ⟨q, -, hq, hqa, hqn⟩ := Path.exists_ofWorkspace?_nameOf ha hn
  rw [Session.documentOf, hq, Document.ofPath, Uri.nameOf_of_isAbsolute ha]
  refine value_document_eq_of_absolutePath ?_ preparation useStdin extra
  simp only [absolutePath, host.absolutize_of_isAbsolute hqa, host.absolutize_of_isAbsolute ha, hqn,
    hn]

namespace Path

/-- **Files by their paths and by their URIs are the same.**  The URI of an absolute path in normal
form, of any octets, names a path that is made absolute to it, and no other such path has the URI.
A workspace stands under the same root, and gives the same record, whether it is named by the path
or by the URI; and the same is prepared for the document that comes from the path and for the one
that the editor knows by the URI, if their texts are the same. -/
theorem named_back (ha : p.isAbsolute = true) (hn : p.normalize = p) :
    (∃ q, ofWorkspace? (Uri.nameOf p) = some q ∧ ∀ host : Host, host.absolutize q = pure p) ∧
    (∀ p' : Path, p'.isAbsolute = true → p'.normalize = p' → Uri.nameOf p' = Uri.nameOf p →
      p' = p) ∧
    (∀ (host : Host) (e : WorkspaceEntry), (ofString e.workspace).normalize = p →
      e.root? host = some p ∧ { e with workspace := Uri.nameOf p }.root? host = some p ∧
      ∀ runtime global done,
        Snapshot.addEntry host runtime global done { e with workspace := Uri.nameOf p } =
          Snapshot.addEntry host runtime global done e) ∧
    ∃ u, Uri.parse (Uri.nameOf p) = .ok u ∧ u.spell = Uri.nameOf p ∧
      ∀ (host : Host) (preparation : Preparation) source useStdin extra,
        (preparation.document host (Session.documentOf u source) useStdin extra).value =
          (preparation.document host (.ofPath p source) useStdin extra).value := by
  refine ⟨?_, fun p' ha' hn' h => eq_of_nameOf_eq ha' hn' ha hn h, fun host e he => ?_, ?_⟩
  · obtain ⟨q, hq, -, hqa, hqn⟩ := exists_ofWorkspace?_nameOf ha hn
    exact ⟨q, hq, fun host => by rw [host.absolutize_of_isAbsolute hqa, hqn]⟩
  · exact ⟨WorkspaceEntry.root?_of_normalize ha he, WorkspaceEntry.root?_nameOf ha hn e,
      Snapshot.addEntry_nameOf ha hn he⟩
  · refine ⟨Uri.ofPath p, ?_, (Uri.nameOf_of_isAbsolute ha).symm, fun host preparation => ?_⟩
    · rw [Uri.nameOf_of_isAbsolute ha]
      exact Uri.parse_spell_ofPath ha hn
    · exact Preparation.value_document_documentOf ha hn preparation

/-- A path with what has a meaning in a URI, what is no text, and a drive letter at its end. -/
def oddPath : Path :=
  ⟨Utf8.encode "/%41?#/\\ |\t/%2e" ++ [separator, 0xFF, 0x00, separator] ++ Utf8.encode "C:"⟩

theorem named_back_odd :
    ∃ q, ofWorkspace? "file:///%2541%3F%23/%5C%20|%09/%252e/%FF%00/C:" = some q ∧
      Store.rootHost.absolutize q = pure oddPath := by
  have hname : Uri.nameOf oddPath = "file:///%2541%3F%23/%5C%20|%09/%252e/%FF%00/C:" := by
    decide +kernel
  obtain ⟨⟨q, hq, habs⟩, -⟩ := named_back (p := oddPath) (by decide +kernel) (by decide +kernel)
  rw [hname] at hq
  exact ⟨q, hq, habs _⟩

end Path

end ToolRelay
