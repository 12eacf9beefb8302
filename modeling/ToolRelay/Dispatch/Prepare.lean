import ToolRelay.Dispatch.Strategy
import ToolRelay.Document.Basic
import ToolRelay.Invocation.Basic
import ToolRelay.Output.Channel
import ToolRelay.Settings.Store
import ToolRelay.Settings.Tool
import ToolRelay.Text.Replace

/-!
# Preparing a run

From a document to the run of the tool on it: documents that the tool should never see are left
out, then the record of settings, the way of running and the argument vector follow.

* `Preparation.document` and `Preparation.global` prepare runs.
* `Preparation.arguments` is the argument vector without the part for the document.
-/

namespace ToolRelay

/-- Why a document is left out. -/
inductive Skip where
  /-- It is a cell of a notebook. -/
  | notebookCell
  /-- Its text does not pass the check. -/
  | invalidSource (problem : String)
  /-- It belongs to the standard library. -/
  | standardLibrary
  /-- A pattern excludes it. -/
  | excluded
  deriving DecidableEq, Repr

/-- A run that is ready to be executed. -/
structure Prepared where
  /-- How the tool is run. -/
  strategy : Strategy
  /-- The settings it is run with. -/
  record : SettingsRecord
  /-- What is run. -/
  request : Invocation
  deriving DecidableEq, Repr

/-- What runs are prepared from. -/
structure Preparation where
  /-- The tool. -/
  tool : ToolSpec
  /-- The settings. -/
  store : Store
  /-- The first problem in the text of a document, if it has one. -/
  check : String → Option String
  /-- Where warnings go. -/
  output : OutputChannel

namespace Preparation

/-- What stands for the path of the document in an argument. -/
def placeholder : String := "\x7bpath\x7d"

/-- What the argument vector begins with. -/
def head (tool : ToolSpec) (strategy : Strategy) (record : SettingsRecord) : List String :=
  match strategy with
  | .direct => record.toolPath
  | .remote | .inProcess => [tool.module]

/-- The argument vector without the part for the document. -/
def arguments (tool : ToolSpec) (strategy : Strategy) (record : SettingsRecord)
    (extra : List String) : List String :=
  head tool strategy record ++ tool.args ++ record.extraArgs ++ extra

/-- The part of the argument vector for the document. -/
def documentArguments (tool : ToolSpec) (path : Option Path) (useStdin : Bool) : List String :=
  let text := (path.map Path.display).getD ""
  if useStdin then tool.stdinArgs.map (Text.replace placeholder text)
  else (path.map Path.display).toList

/-- What is said about a document whose text does not pass the check. -/
def warningText (tool : ToolSpec) (d : Document) (problem : String) : String :=
  "Skipping " ++ d.displayName ++ ": " ++ tool.displayName ++ " could not parse it (" ++ problem ++
    ")"

/-- The absolute path of a document, if it has a path. -/
def absolutePath (host : Host) (d : Document) : Traced (Option Path) :=
  match d.path with
  | none => pure none
  | some p => do return some (← host.absolutize p)

/-- Whether a path lies in the standard library of the settings. -/
def isInLibrary (store : Store) (path : Option Path) : Bool :=
  path.any fun p => Document.isInLibrary p store.snapshot.global.stdlibPaths

/-- Whether a pattern of the settings excludes a path. -/
def isExcluded (store : Store) (record : SettingsRecord) (path : Option Path) : Bool :=
  path.any fun p => store.snapshot.exclude.isExcluded p record.workspaceRoot

/-- The run of the tool on a document that is not left out. -/
def runOn (tool : ToolSpec) (runtime : Path) (record : SettingsRecord) (path : Option Path)
    (source : String) (useStdin : Bool) (extra : List String) : Prepared :=
  let strategy := Strategy.select record runtime
  { strategy
    record
    request :=
      { argv := arguments tool strategy record extra ++ documentArguments tool path useStdin
        useStdin
        workingDir := record.cwd
        source := some source } }

/-- Prepares the run of the tool on a document.  The reasons for leaving it out are tried in turn;
only a text that does not pass the check is warned about. -/
def document (host : Host) (p : Preparation) (d : Document) (useStdin : Bool)
    (extra : List String) : Traced (Except Skip Prepared) :=
  if Document.isNotebookCell d.uri then pure (.error .notebookCell)
  else
    match p.check d.source with
    | some problem => do
      p.output.warning (warningText p.tool d problem)
      return .error (.invalidSource problem)
    | none => do
      let path ← absolutePath host d
      if isInLibrary p.store path then return .error .standardLibrary
      else
        let record ← p.store.resolve host path
        if isExcluded p.store record path then return .error .excluded
        else return .ok (runOn p.tool p.store.runtime record path d.source useStdin extra)

/-- Prepares the run of the tool without a document. -/
def global (host : Host) (p : Preparation) (extra : List String) : Traced Prepared := do
  let record ← p.store.resolve host none
  let strategy := Strategy.select record p.store.runtime
  return {
    strategy
    record
    request :=
      { argv := arguments p.tool strategy record extra
        useStdin := true
        workingDir := record.workspaceRoot
        source := none } }

end Preparation

end ToolRelay
