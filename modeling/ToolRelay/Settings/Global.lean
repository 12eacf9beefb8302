import ToolRelay.Settings.Choices

/-!
# Global settings

The defaults for all workspaces.  The configuration file gives a first layer and the editor a
second one, laid over the first by `GlobalSettings.merge`.
-/

namespace ToolRelay

/-- Defaults for all workspaces; what is not set is left to the built-in defaults. -/
structure GlobalSettings where
  /-- The command line of the tool, if it is to be started by its path. -/
  path : Option (List String)
  /-- The command line of the runtime under which the tool runs. -/
  interpreter : Option (List String)
  /-- Arguments for the tool. -/
  args : Option (List String)
  /-- Where bundled modules stand on the search path. -/
  importStrategy : Option ImportStrategy
  /-- Which messages are raised as notifications. -/
  showNotifications : Option NotificationLevel
  /-- Directories of the standard library; documents below them are left alone. -/
  stdlibPaths : List Path
  /-- Patterns of documents that are left alone. -/
  exclude : List String
  deriving DecidableEq, Repr

namespace GlobalSettings

/-- Nothing set. -/
def empty : GlobalSettings := ⟨none, none, none, none, none, [], []⟩

/-- How global settings are written. -/
def schema : Schema GlobalSettings :=
  .record "GlobalSettings"
    (.cons "path" (.orElse none) (.optional (.list .text)) <|
      .cons "interpreter" (.orElse none) (.optional (.list .text)) <|
      .cons "args" (.orElse none) (.optional (.list .text)) <|
      .cons "importStrategy" (.orElse none) (.optional (.choice ImportStrategy.choice)) <|
      .cons "showNotifications" (.orElse none) (.optional (.choice NotificationLevel.choice)) <|
      .cons "stdlibPaths" (.orElse []) (.list .path) <|
      .cons "exclude" (.orElse []) (.list .text) .nil)
    (fun (path, interpreter, args, strategy, level, stdlib, exclude, ()) =>
      ⟨path, interpreter, args, strategy, level, stdlib, exclude⟩)
    (fun g => (g.path, g.interpreter, g.args, g.importStrategy, g.showNotifications,
      g.stdlibPaths, g.exclude, ()))

/-- The settings with `upper` laid over them: what is set there wins, and so does a list that is
not empty. -/
def merge (base upper : GlobalSettings) : GlobalSettings where
  path := upper.path <|> base.path
  interpreter := upper.interpreter <|> base.interpreter
  args := upper.args <|> base.args
  importStrategy := upper.importStrategy <|> base.importStrategy
  showNotifications := upper.showNotifications <|> base.showNotifications
  stdlibPaths := if upper.stdlibPaths = [] then base.stdlibPaths else upper.stdlibPaths
  exclude := if upper.exclude = [] then base.exclude else upper.exclude

end GlobalSettings

end ToolRelay
