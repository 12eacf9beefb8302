import ToolRelay.Settings.Global
import ToolRelay.Schema.OfJson
import ToolRelay.Trace

/-!
# What the editor says about workspaces

The editor sends a list of entries, one for each workspace: at the beginning together with global
settings (`EditorOptions`), later whenever its configuration changes.  A payload that cannot be
read counts as an absent one, with a warning.
-/

namespace ToolRelay

/-- The settings of one workspace; what is not set is taken from the global settings. -/
structure WorkspaceEntry where
  /-- The root of the workspace, as a URI or as a path. -/
  workspace : String
  /-- The command line of the tool, if it is to be started by its path. -/
  path : Option (List String)
  /-- The command line of the runtime under which the tool runs. -/
  interpreter : Option (List String)
  /-- Arguments for the tool. -/
  args : Option (List String)
  /-- Where bundled modules stand on the search path. -/
  importStrategy : Option ImportStrategy
  /-- Which messages are raised as notifications. -/
  showNotifications : Option NotificationLevel
  deriving DecidableEq, Repr

namespace WorkspaceEntry

/-- How an entry is written. -/
def schema : Schema WorkspaceEntry :=
  .record "WorkspaceSettings"
    (.cons "workspace" .required .text <|
      .cons "path" (.orElse none) (.optional (.list .text)) <|
      .cons "interpreter" (.orElse none) (.optional (.list .text)) <|
      .cons "args" (.orElse none) (.optional (.list .text)) <|
      .cons "importStrategy" (.orElse none) (.optional (.choice ImportStrategy.choice)) <|
      .cons "showNotifications" (.orElse none) (.optional (.choice NotificationLevel.choice)) .nil)
    (fun (workspace, path, interpreter, args, strategy, level, ()) =>
      ⟨workspace, path, interpreter, args, strategy, level⟩)
    (fun e => (e.workspace, e.path, e.interpreter, e.args, e.importStrategy, e.showNotifications,
      ()))

end WorkspaceEntry

/-- What the editor says at the beginning of a session. -/
structure EditorOptions where
  /-- Defaults for all workspaces. -/
  global : GlobalSettings
  /-- The workspaces. -/
  settings : Option (List WorkspaceEntry)
  deriving DecidableEq, Repr

namespace EditorOptions

/-- Nothing said. -/
def empty : EditorOptions := ⟨.empty, none⟩

/-- How the options are written. -/
def schema : Schema EditorOptions :=
  .record "InitializationOptions"
    (.cons "globalSettings" (.orElse .empty) GlobalSettings.schema <|
      .cons "settings" (.orElse none) (.optional (.list WorkspaceEntry.schema)) .nil)
    (fun (global, settings, ()) => ⟨global, settings⟩)
    (fun o => (o.global, o.settings, ()))

end EditorOptions

/-- The options in the payload that opens a session. -/
def EditorOptions.ofPayload (payload : Option Json) : Traced EditorOptions :=
  match payload with
  | none => pure .empty
  | some j =>
    match schema.decode j with
    | .ok options => pure options
    | .error e => do
      Traced.warn ("Ignoring malformed initialization options: " ++ e.message)
      pure .empty

/-- The list inside a payload that announces a change: the payload itself, or its member
`settings`. -/
def WorkspaceEntry.listIn? (payload : Json) : Option Json :=
  match payload with
  | .object members => (Json.lookup "settings" members).filter (!·.isNull)
  | .array items => some (.array items)
  | _ => none

/-- The entries in a payload that announces a change; `none` for a payload without a list. -/
def WorkspaceEntry.ofChange? (payload : Json) : Traced (Option (List WorkspaceEntry)) :=
  match listIn? payload with
  | none => pure none
  | some j =>
    match (Schema.list schema).decode j with
    | .ok entries => pure (some entries)
    | .error e => do
      Traced.warn ("Ignoring malformed workspace settings: " ++ e.message)
      pure none

end ToolRelay
