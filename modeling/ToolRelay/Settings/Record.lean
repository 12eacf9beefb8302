import ToolRelay.Settings.Entry
import ToolRelay.Schema.Encode

/-!
# The settings of one run

A record says everything about a workspace.  It is built from the global settings, and an entry of
the editor is laid over it.
-/

namespace ToolRelay

/-- The settings that apply to one run. -/
structure SettingsRecord where
  /-- The root of the workspace. -/
  workspaceRoot : Path
  /-- The directory in which the tool runs. -/
  cwd : Path
  /-- The command line of the tool; empty if it is not started by its path. -/
  toolPath : List String
  /-- The command line of the runtime under which the tool runs. -/
  interpreterPath : List String
  /-- Arguments for the tool. -/
  extraArgs : List String
  /-- Where bundled modules stand on the search path. -/
  importStrategy : ImportStrategy
  /-- Which messages are raised as notifications. -/
  notificationLevel : NotificationLevel
  deriving DecidableEq, Repr

namespace SettingsRecord

/-- How a record is written. -/
def schema : Schema SettingsRecord :=
  .record "SettingsRecord"
    (.cons "workspaceRoot" .required .path <|
      .cons "cwd" .required .path <|
      .cons "toolPath" .required (.list .text) <|
      .cons "interpreterPath" .required (.list .text) <|
      .cons "extraArgs" .required (.list .text) <|
      .cons "importStrategy" .required (.choice ImportStrategy.choice) <|
      .cons "notificationLevel" .required (.choice NotificationLevel.choice) .nil)
    (fun (root, cwd, toolPath, interpreter, args, strategy, level, ()) =>
      ⟨root, cwd, toolPath, interpreter, args, strategy, level⟩)
    (fun r => (r.workspaceRoot, r.cwd, r.toolPath, r.interpreterPath, r.extraArgs,
      r.importStrategy, r.notificationLevel, ()))

/-- The record that the global settings give for a root, where `runtime` is the program that runs
now. -/
def ofGlobal (runtime : Path) (global : GlobalSettings) (root : Path) : SettingsRecord where
  workspaceRoot := root
  cwd := root
  toolPath := global.path.getD []
  interpreterPath := global.interpreter.getD [runtime.display]
  extraArgs := global.args.getD []
  importStrategy := global.importStrategy.getD .standard
  notificationLevel := global.showNotifications.getD .standard

/-- The record with what an entry sets laid over it. -/
def overlay (r : SettingsRecord) (e : WorkspaceEntry) : SettingsRecord :=
  { r with
    toolPath := e.path.getD r.toolPath
    interpreterPath := e.interpreter.getD r.interpreterPath
    extraArgs := e.args.getD r.extraArgs
    importStrategy := e.importStrategy.getD r.importStrategy
    notificationLevel := e.showNotifications.getD r.notificationLevel }

end SettingsRecord

end ToolRelay
