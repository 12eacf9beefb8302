import ToolRelay.Settings.Record
import ToolRelay.Document.Exclude
import ToolRelay.Host.Basic
import ToolRelay.Uri.File

/-!
# The settings store

The store maps the roots of workspaces to their records.  It is filled when a session opens and
replaced as a whole whenever the configuration of the editor changes; the global settings are
fixed when the session opens.

* `Snapshot.build` makes the content of a store from global settings and entries.
* `Store.setUp` and `Store.replace` change a store.
* `Store.resolve` finds the record for a document: that of the nearest workspace around it, or one
  made from the global settings.
-/

namespace ToolRelay

/-- The content of a store. -/
structure Snapshot where
  /-- The global settings. -/
  global : GlobalSettings
  /-- The patterns of excluded documents in them. -/
  exclude : ExcludeMatcher
  /-- The records under their roots, in order. -/
  workspaces : List (Path × SettingsRecord)
  deriving Repr

namespace Snapshot

/-- The content of a new store. -/
def empty : Snapshot := ⟨.empty, .empty, []⟩

/-- The roots, in order. -/
def roots (s : Snapshot) : List Path := s.workspaces.map (·.1)

/-- The records, in order. -/
def records (s : Snapshot) : List SettingsRecord := s.workspaces.map (·.2)

/-- Records with one more: it takes the place of the record under the same root, or comes last. -/
def put (root : Path) (record : SettingsRecord) :
    List (Path × SettingsRecord) → List (Path × SettingsRecord)
  | [] => [(root, record)]
  | (r, old) :: rest =>
    if r.agrees root then (r, record) :: rest else (r, old) :: put root record rest

/-- The record under the root `dir`, which may be written in another way. -/
def find? (s : Snapshot) (dir : Path) : Option SettingsRecord :=
  match s.workspaces.find? (·.1.agrees dir) with
  | some (_, record) => some record
  | none => s.records.find? (·.workspaceRoot.same dir)

/-- Records with the one that an entry gives.  An entry for something that is not a directory of
this computer is skipped with a warning. -/
def addEntry (host : Host) (runtime : Path) (global : GlobalSettings)
    (done : List (Path × SettingsRecord)) (e : WorkspaceEntry) :
    Traced (List (Path × SettingsRecord)) :=
  match Path.ofWorkspace? e.workspace with
  | none => do
    Traced.warn ("Skipping settings for non-file workspace '" ++ e.workspace ++ "'")
    pure done
  | some p => do
    let root ← host.absolutize p
    pure (put root ((SettingsRecord.ofGlobal runtime global root).overlay e) done)

/-- Records with those that entries give, one after another. -/
def addEntries (host : Host) (runtime : Path) (global : GlobalSettings) :
    List (Path × SettingsRecord) → List WorkspaceEntry → Traced (List (Path × SettingsRecord))
  | done, [] => pure done
  | done, e :: rest => do
    addEntries host runtime global (← addEntry host runtime global done e) rest

/-- The current directory as a root. -/
def currentRoot (host : Host) : Traced Path := do
  host.absolutize (← host.workingDir)

/-- The content of a store with the given global settings and entries; without entries it is one
record for the current directory. -/
def build (host : Host) (runtime : Path) (global : GlobalSettings)
    (entries : List WorkspaceEntry) : Traced Snapshot := do
  let workspaces ←
    match entries with
    | [] => do
      let root ← currentRoot host
      pure [(root, SettingsRecord.ofGlobal runtime global root)]
    | entries => addEntries host runtime global [] entries
  let exclude ← ExcludeMatcher.ofPatterns global.exclude
  pure ⟨global, exclude, workspaces⟩

/-- The first record under a directory of `dirs`. -/
def firstOf (s : Snapshot) : List Path → Option SettingsRecord
  | [] => none
  | dir :: rest =>
    match s.find? dir with
    | some record => some record
    | none => firstOf s rest

/-- The record that applies to a document, or to no document: of the workspaces around the
document the nearest one counts; outside of all of them the global settings do.  Without a
document the first record counts. -/
def resolve (host : Host) (runtime : Path) (s : Snapshot) (document : Option Path) :
    Traced SettingsRecord :=
  match document with
  | none =>
    match s.records with
    | record :: _ => pure record
    | [] => do
      return SettingsRecord.ofGlobal runtime s.global (← currentRoot host)
  | some document => do
    let document ← host.absolutize document
    let dir := document.parent?.getD document
    match s.firstOf dir.ancestors with
    | some record => pure record
    | none => pure (SettingsRecord.ofGlobal runtime s.global dir)

end Snapshot

/-- A settings store. -/
structure Store where
  /-- The program that runs now, which is the interpreter unless another one is set. -/
  runtime : Path
  /-- The content. -/
  snapshot : Snapshot
  deriving Repr

namespace Store

/-- A new store. -/
def new (runtime : Path) : Store := ⟨runtime, .empty⟩

/-- The store at the opening of a session. -/
def setUp (host : Host) (s : Store) (global : GlobalSettings)
    (entries : Option (List WorkspaceEntry)) : Traced Store := do
  return { s with snapshot := ← Snapshot.build host s.runtime global (entries.getD []) }

/-- The store after a change of the configuration; the global settings stay. -/
def replace (host : Host) (s : Store) (entries : Option (List WorkspaceEntry)) : Traced Store :=
  s.setUp host s.snapshot.global entries

/-- The record that applies to a document, or to no document. -/
def resolve (host : Host) (s : Store) (document : Option Path) : Traced SettingsRecord :=
  s.snapshot.resolve host s.runtime document

end Store

end ToolRelay
