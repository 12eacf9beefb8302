import ToolRelay.Settings.Global

/-!
# The tool and the configuration file

The configuration file names the tool (`ToolSpec`) and gives a first layer of global settings.
-/

namespace ToolRelay

/-- The tool that is run. -/
structure ToolSpec where
  /-- Its name as a module. -/
  module : String
  /-- Its name in messages. -/
  displayName : String
  /-- Arguments it always gets. -/
  args : List String
  /-- Arguments it gets last when the document is sent to its standard input. -/
  stdinArgs : List String
  /-- Whether the editor's documents are sent to its standard input. -/
  useStdin : Bool
  /-- Arguments after the interpreter that start a runner. -/
  runnerArgs : List String
  /-- How many milliseconds a run may take; 0 for as long as it wants. -/
  timeoutMs : Nat
  /-- The check that documents must pass. -/
  syntaxCheck : SyntaxCheckKind
  /-- The directory of modules that come with the tool. -/
  bundledPath : Option Path
  deriving DecidableEq, Repr

namespace ToolSpec

/-- The time a run may take when nothing is said. -/
def standardTimeoutMs : Nat := 30000

/-- The tool when nothing is said. -/
def standard : ToolSpec where
  module := "echo"
  displayName := "echo"
  args := []
  stdinArgs := []
  useStdin := false
  runnerArgs := ["runner"]
  timeoutMs := standardTimeoutMs
  syntaxCheck := .none
  bundledPath := none

/-- How a tool is written. -/
def schema : Schema ToolSpec :=
  .record "ToolSpec"
    (.cons "module" (.orElse standard.module) .text <|
      .cons "display-name" (.orElse standard.displayName) .text <|
      .cons "args" (.orElse standard.args) (.list .text) <|
      .cons "stdin-args" (.orElse standard.stdinArgs) (.list .text) <|
      .cons "use-stdin" (.orElse standard.useStdin) .flag <|
      .cons "runner-args" (.orElse standard.runnerArgs) (.list .text) <|
      .cons "timeout-ms" (.orElse standard.timeoutMs) .count <|
      .cons "syntax-check" (.orElse standard.syntaxCheck) (.choice SyntaxCheckKind.choice) <|
      .cons "bundled-path" (.orElse standard.bundledPath) (.optional .path) .nil)
    (fun (module, displayName, args, stdinArgs, useStdin, runnerArgs, timeoutMs, check, bundled,
        ()) =>
      ⟨module, displayName, args, stdinArgs, useStdin, runnerArgs, timeoutMs, check, bundled⟩)
    (fun t => (t.module, t.displayName, t.args, t.stdinArgs, t.useStdin, t.runnerArgs, t.timeoutMs,
      t.syntaxCheck, t.bundledPath, ()))

end ToolSpec

/-- What the configuration file says. -/
structure FileConfig where
  /-- The tool. -/
  tool : ToolSpec
  /-- The first layer of global settings. -/
  global : GlobalSettings
  deriving DecidableEq, Repr

namespace FileConfig

/-- The configuration when there is no file. -/
def standard : FileConfig := ⟨.standard, .empty⟩

/-- How a configuration is written. -/
def schema : Schema FileConfig :=
  .record "FileConfig"
    (.cons "tool" (.orElse .standard) ToolSpec.schema <|
      .cons "global" (.orElse .empty) GlobalSettings.schema .nil)
    (fun (tool, global, ()) => ⟨tool, global⟩)
    (fun c => (c.tool, c.global, ()))

end FileConfig

end ToolRelay
