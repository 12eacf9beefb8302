import ToolRelay.Dispatch.Prepare
import ToolRelay.Proofs.Path.Respelling
import ToolRelay.Proofs.Settings.History
import ToolRelay.Proofs.Uri.Scheme

/-!
# How paths are written makes no difference

The path of a document and the roots of workspaces reach the program as somebody has written them.
Both go through `Host.absolutize` before anything is decided, and it gives the same for paths that
are alike (`Host.absolutize_eq_of_alike`, `Snapshot.addEntry_eq_of_respelled`).  So two runs whose
inputs differ in nothing but the way in which paths are written end alike.

* `Store.changes_eq_of_respelled` : the stores that are filled are equal;
* `Preparation.respelling_invariant` : and so is what is prepared from them.
-/

namespace ToolRelay

/-! ### Paths as they reach the program -/

namespace Uri

/-- A text that begins with a slash has no scheme, so it is no URI. -/
theorem parse_of_slash {s : String} (h : s.toList.head? = some '/') :
    parse s = .error .noScheme := by
  obtain ⟨cs, hcs⟩ := List.head?_eq_some_iff.1 h
  have hslash : isMargin '/' = false := by decide
  obtain ⟨rest, hrest⟩ := @trim_append_cons [] '/' nofun hslash cs
  rw [List.nil_append, List.nil_append] at hrest
  rw [parse, hcs, hrest]
  rfl

end Uri

/-- An absolute path is the root that its text names. -/
theorem Path.ofWorkspace?_of_isAbsolute {s : String} (h : (ofString s).isAbsolute = true) :
    ofWorkspace? s = some (ofString s) := by
  have hslash : s.toList.head? = some '/' := by
    obtain ⟨bs, hbs⟩ := List.head?_eq_some_iff.1 (eq_of_beq h)
    have hbs : s.toList.flatMap String.utf8EncodeChar = [] ++ separator :: bs := hbs
    obtain ⟨before, after, hs, hnil, -⟩ :=
      Utf8.flatMap_encodeChar_eq_append_cons (by decide) hbs
    cases before with
    | nil =>
      rw [hs]
      rfl
    | cons c before =>
      -- no character is written without octets
      have hlen := congrArg List.length hnil
      have hpos := c.utf8Size_pos
      simp only [List.flatMap_cons, List.length_append, List.length_nil,
        String.length_utf8EncodeChar] at hlen
      omega
  rw [ofWorkspace?, Uri.parse_of_slash hslash]

theorem Host.absolutize_of_isAbsolute {host : Host} {p : Path} (h : p.isAbsolute = true) :
    host.absolutize p = pure p.normalize := by
  rw [absolutize, if_pos h]

theorem Host.absolutize_eq_of_alike {host : Host} {dir p q : Path}
    (hdir : host.currentDir = .ok dir) (h : dir.Alike p q) :
    host.absolutize p = host.absolutize q := by
  rw [absolutize_eq hdir, absolutize_eq hdir, h.absoluteFrom_eq]

/-! ### Filling a store -/

/-- Entries that say the same, where the absolute path of a root may be written in another way. -/
inductive WorkspaceEntry.Respelled : WorkspaceEntry → WorkspaceEntry → Prop where
  /-- The same entry. -/
  | same (e : WorkspaceEntry) : Respelled e e
  /-- Another spelling of the root. -/
  | root {e : WorkspaceEntry} {workspace : String} {dir : Path}
      (hp : (Path.ofString e.workspace).isAbsolute = true)
      (hq : (Path.ofString workspace).isAbsolute = true)
      (h : dir.Alike (Path.ofString e.workspace) (Path.ofString workspace)) :
      Respelled e { e with workspace }

namespace Snapshot

variable {host : Host} {runtime : Path} {global : GlobalSettings}

theorem addEntry_eq_of_respelled (done : List (Path × SettingsRecord)) {e e' : WorkspaceEntry}
    (h : e.Respelled e') :
    addEntry host runtime global done e = addEntry host runtime global done e' := by
  cases h with
  | same => rfl
  | root hp hq h =>
    rw [addEntry, addEntry, Path.ofWorkspace?_of_isAbsolute hp,
      Path.ofWorkspace?_of_isAbsolute hq]
    simp only
    rw [host.absolutize_of_isAbsolute hp, host.absolutize_of_isAbsolute hq,
      h.normalize_eq hp hq]
    -- nothing but the workspace has changed, and it is not laid over the record
    rfl

theorem addEntries_eq_of_respelled {es es' : List WorkspaceEntry}
    (h : List.Forall₂ WorkspaceEntry.Respelled es es') (done : List (Path × SettingsRecord)) :
    addEntries host runtime global done es = addEntries host runtime global done es' := by
  induction h generalizing done with
  | nil => rfl
  | cons he _ ih => simp only [addEntries, addEntry_eq_of_respelled done he, ih]

theorem build_eq_of_respelled {es es' : List WorkspaceEntry}
    (h : List.Forall₂ WorkspaceEntry.Respelled es es') :
    build host runtime global es = build host runtime global es' := by
  cases h with
  | nil => rfl
  | cons he hes =>
    unfold build
    simp only [addEntries_eq_of_respelled (.cons he hes) []]

end Snapshot

namespace Store

/-- Calls with the same global settings and with entries that say the same. -/
inductive Change.Respelled : Change → Change → Prop where
  /-- A session is opened. -/
  | setUp (global : GlobalSettings) {payload payload' : Option (List WorkspaceEntry)}
      (h : Option.Rel (List.Forall₂ WorkspaceEntry.Respelled) payload payload') :
      Respelled (.setUp global payload) (.setUp global payload')
  /-- The configuration is changed. -/
  | replace {payload payload' : Option (List WorkspaceEntry)}
      (h : Option.Rel (List.Forall₂ WorkspaceEntry.Respelled) payload payload') :
      Respelled (.replace payload) (.replace payload')

/-- Histories of calls that find the same world and say the same, one after another. -/
def Respelled : List (Host × Change) → List (Host × Change) → Prop :=
  List.Forall₂ fun call call' => call.1 = call'.1 ∧ call.2.Respelled call'.2

variable {host : Host} {s : Store}

theorem setUp_eq_of_respelled {global : GlobalSettings}
    {payload payload' : Option (List WorkspaceEntry)}
    (h : Option.Rel (List.Forall₂ WorkspaceEntry.Respelled) payload payload') :
    s.setUp host global payload = s.setUp host global payload' := by
  have hentries : List.Forall₂ WorkspaceEntry.Respelled (payload.getD []) (payload'.getD []) := by
    cases h with
    | none => exact .nil
    | some h => exact h
  rw [setUp, setUp, Snapshot.build_eq_of_respelled hentries]

theorem change_eq_of_respelled {c c' : Change} (h : c.Respelled c') :
    s.change host c = s.change host c' := by
  cases h with
  | setUp global h => exact setUp_eq_of_respelled h
  | replace h => exact setUp_eq_of_respelled h

/-- **Stores are equal** if the calls that fill them differ only in how roots are written. -/
theorem changes_eq_of_respelled {calls calls' : List (Host × Change)}
    (h : Respelled calls calls') (s : Store) : s.changes calls = s.changes calls' := by
  induction h generalizing s with
  | nil => rfl
  | cons hcall _ ih =>
    obtain ⟨hhost, hchange⟩ := hcall
    rw [changes, changes, hhost, change_eq_of_respelled hchange]
    simp only [ih]

theorem resolve_eq_of_alike {dir p q : Path} (hdir : host.currentDir = .ok dir)
    (h : dir.Alike p q) : s.resolve host (some p) = s.resolve host (some q) := by
  simp only [resolve, Snapshot.resolve, host.absolutize_eq_of_alike hdir h]

end Store

namespace Preparation

variable {host : Host} {dir p q : Path}

/-- What is prepared depends on the path of a document only as it is made absolute. -/
theorem value_document_eq_of_absolutePath {p q : Option Path} {uri source : String}
    (hpath : absolutePath host ⟨uri, p, source⟩ = absolutePath host ⟨uri, q, source⟩)
    (preparation : Preparation) (useStdin : Bool) (extra : List String) :
    (preparation.document host ⟨uri, p, source⟩ useStdin extra).value =
      (preparation.document host ⟨uri, q, source⟩ useStdin extra).value := by
  rw [document, document, hpath]
  split_ifs
  · rfl
  · -- a warning shows the path as it was written, the result does not
    cases preparation.check source <;> rfl

theorem value_document_eq_of_alike (hdir : host.currentDir = .ok dir) (h : dir.Alike p q)
    (preparation : Preparation) (uri source : String) (useStdin : Bool) (extra : List String) :
    (preparation.document host ⟨uri, some p, source⟩ useStdin extra).value =
      (preparation.document host ⟨uri, some q, source⟩ useStdin extra).value := by
  refine value_document_eq_of_absolutePath ?_ preparation useStdin extra
  simp only [absolutePath, host.absolutize_eq_of_alike hdir h]

/-- **How paths are written makes no difference.**  A store that is filled with entries whose roots
are written in another way is the same store.  In it a document whose path is written in another
way, seen from the current directory, has the same record; and what is prepared for the document is
the same, be it a reason for leaving it out or a run with its record and its arguments. -/
theorem respelling_invariant (runtime : Path) {calls calls' : List (Host × Store.Change)}
    (hcalls : Store.Respelled calls calls') (hdir : host.currentDir = .ok dir)
    (h : dir.Alike p q) :
    let store := ((Store.new runtime).changes calls).value
    (Store.new runtime).changes calls = (Store.new runtime).changes calls' ∧
    store.resolve host (some p) = store.resolve host (some q) ∧
    ∀ tool check output uri source useStdin extra,
      (document host ⟨tool, store, check, output⟩ ⟨uri, some p, source⟩ useStdin extra).value =
        (document host ⟨tool, store, check, output⟩ ⟨uri, some q, source⟩ useStdin extra).value := by
  intro store
  refine ⟨Store.changes_eq_of_respelled hcalls _, Store.resolve_eq_of_alike hdir h, ?_⟩
  intro tool check output uri source useStdin extra
  exact value_document_eq_of_alike hdir h ⟨tool, store, check, output⟩ uri source useStdin extra

/-- The two workspaces of `Store.nestedEntries`, with a detour on the way to the outer one. -/
def detouredEntries : List WorkspaceEntry :=
  [⟨"//a/./b/..", none, none, some ["--outer"], none, none⟩,
    ⟨"file:///a/b/", none, none, some ["--inner"], none, none⟩]

/-- The run for a file of the inner workspace is the same, and names the file in the same way, when
the path of the file takes a detour as well. -/
theorem respelling_invariant_nested :
    let preparation : Preparation := ⟨.standard, Store.nestedStore, fun _ => none, ⟨.off⟩⟩
    let run (path : String) :=
      (preparation.document Store.rootHost ⟨"", some (Path.ofString path), ""⟩ false []).value
    (Store.new ⟨[]⟩).changes [(Store.rootHost, .replace (some Store.nestedEntries))] =
      (Store.new ⟨[]⟩).changes [(Store.rootHost, .replace (some detouredEntries))] ∧
    Store.nestedStore.resolve Store.rootHost (some (Path.ofString "/a/b/c/file")) =
      Store.nestedStore.resolve Store.rootHost (some (Path.ofString "a//b/./x/../c/file")) ∧
    run "/a/b/c/file" = run "a//b/./x/../c/file" ∧
    (run "a//b/./x/../c/file").map (·.request.argv) =
      .ok ["echo", "--inner", "/a/b/c/file"] := by
  intro preparation run
  have hroot : (Path.ofString "/").Alike (Path.ofString "/a") (Path.ofString "//a/./b/..") :=
    (Path.alike_iff rfl).2 (by decide +kernel)
  have hfile : (Path.ofString "/").Alike (Path.ofString "/a/b/c/file")
      (Path.ofString "a//b/./x/../c/file") :=
    (Path.alike_iff rfl).2 (by decide +kernel)
  have hentries : List.Forall₂ WorkspaceEntry.Respelled Store.nestedEntries detouredEntries :=
    .cons (.root rfl rfl hroot) (.cons (.same _) .nil)
  have hcalls : Store.Respelled [(Store.rootHost, .replace (some Store.nestedEntries))]
      [(Store.rootHost, .replace (some detouredEntries))] :=
    .cons ⟨rfl, .replace (.some hentries)⟩ .nil
  obtain ⟨hstore, hresolve, hrun⟩ :=
    respelling_invariant ⟨[]⟩ hcalls (show Store.rootHost.currentDir = _ from rfl) hfile
  exact ⟨hstore, hresolve, hrun .standard (fun _ => none) ⟨.off⟩ "" "" false [],
    by decide +kernel⟩

end Preparation

end ToolRelay
