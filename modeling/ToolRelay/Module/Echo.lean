import ToolRelay.Module.Basic
import ToolRelay.Host.Basic

/-!
# The echo module

The module that comes with the program: it copies its input to its output.  The input is the
standard input if there is one, otherwise the files that the arguments name.
-/

namespace ToolRelay

namespace Echo

/-- Whether an argument is a flag. -/
def isFlag (arg : String) : Bool := arg.toList.head? == some '-'

/-- What is said about flags. -/
def flagLine (flags : List String) : String :=
  if flags = [] then "" else "flags: " ++ " ".intercalate flags ++ "\n"

/-- The content of files, one after another, or the fault of the first that cannot be read. -/
def readAll (host : Host) (call : ModuleCall) : List String → Except Fault (List String)
  | [] => .ok []
  | file :: rest => do
    let path := call.resolve (Path.ofString file)
    match host.readText path with
    | .ok text => return text :: (← readAll host call rest)
    | .error e => throw (.error ("Failed to read " ++ path.display) [e.message])

/-- The output of the module. -/
def output (host : Host) (call : ModuleCall) : Except Fault String :=
  match call.stdin with
  | some text => .ok text
  | none => (readAll host call (call.args.filter (!isFlag ·))).map String.join

/-- The echo module. -/
def module_ (host : Host) : ToolModule where
  name := "echo"
  run call :=
    let stderr := call.stderr ++ flagLine (call.args.filter isFlag)
    match output host call with
    | .ok text => ⟨call.stdout ++ text, stderr, call.searchPath, none⟩
    | .error fault => ⟨call.stdout, stderr, call.searchPath, some fault⟩

end Echo

/-- The modules that come with the program. -/
def Registry.builtins (host : Host) : Registry := Registry.empty.register (Echo.module_ host)

end ToolRelay
