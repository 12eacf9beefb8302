import ToolRelay.Settings.Record
import ToolRelay.Path.Normal

/-!
# How a tool is run

The one place that decides between the three ways of running a tool.  An explicit command line
comes first, then an interpreter that is not the program that runs now.
-/

namespace ToolRelay

/-- A way of running a tool. -/
inductive Strategy where
  /-- Start the command line of the tool. -/
  | direct
  /-- Ask a runner under another runtime. -/
  | remote
  /-- Call the module in this program. -/
  | inProcess
  deriving DecidableEq, Repr

namespace Strategy

/-- The name of a way. -/
def name : Strategy → String
  | direct => "direct-path"
  | remote => "cross-runtime-rpc"
  | inProcess => "in-process-module"

/-- The way that a record asks for, where `runtime` is the program that runs now. -/
def select (record : SettingsRecord) (runtime : Path) : Strategy :=
  match record.toolPath, record.interpreterPath with
  | _ :: _, _ => direct
  | [], interpreter :: _ =>
    if (Path.ofString interpreter).same runtime then inProcess else remote
  | [], [] => inProcess

end Strategy

end ToolRelay
