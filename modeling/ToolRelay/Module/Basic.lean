import ToolRelay.Text.Quoted
import ToolRelay.Trace

/-!
# Modules

A module is a tool that runs inside this program.  It is given a `ModuleCall` and gives a
`ModuleRun`: how it left the output and the search path, and the fault with which it ended, if any.

* `Fault.message` and `Fault.cause` put a fault into words.
* `ToolModule.conduct` runs a module; there is no other way to run one.
* `Registry` holds modules by name, in the order of the names.
-/

namespace ToolRelay

/-- What a module is given. -/
structure ModuleCall where
  /-- The argument vector, which begins with the name of the module. -/
  argv : List String
  /-- The working directory. -/
  cwd : Path
  /-- The standard input, if there is one. -/
  stdin : Option String
  /-- The module search path. -/
  searchPath : List Path
  /-- What has been written to standard output so far. -/
  stdout : String
  /-- What has been written to standard error so far. -/
  stderr : String
  deriving DecidableEq, Repr

namespace ModuleCall

/-- The arguments after the name of the module. -/
def args (c : ModuleCall) : List String := c.argv.tail

/-- A path seen from the working directory. -/
def resolve (c : ModuleCall) (p : Path) : Path := c.cwd.join p

end ModuleCall

/-- How a module can fail. -/
inductive Fault where
  /-- With an error, and what lies behind it, the innermost reason last. -/
  | error (summary : String) (causes : List String)
  /-- By breaking down, with a message if it left one. -/
  | breakdown (message : Option String)
  deriving DecidableEq, Repr

namespace Fault

/-- What happened in the module `name`, on one line as far as the reasons are. -/
def message (name : String) : Fault → String
  | error summary causes => ": ".intercalate (summary :: causes)
  | breakdown text =>
    "Module '" ++ name ++ "' panicked: " ++ text.getD "unknown panic payload"

/-- A reason with its lines indented; the first line begins with `first`, the others with
`next`. -/
def indented (first next reason : String) : String :=
  first ++ ("\n" ++ next).intercalate (reason.splitOn "\n")

/-- A number, right-aligned over five places. -/
def numbered (n : Nat) : String :=
  let digits := toString n
  "".pushn ' ' (5 - digits.length) ++ digits

/-- The reasons behind an error, one below another; several ones are numbered from `n`. -/
def listed (n : Nat) : List String → List String
  | [] => []
  | reason :: rest => indented (numbered n ++ ": ") "       " reason :: listed (n + 1) rest

/-- The reasons behind an error. -/
def reasons : List String → List String
  | [reason] => [indented "    " "    " reason]
  | causes => listed 0 causes

/-- The whole story of an error. -/
def cause : Fault → Option String
  | error summary [] => some summary
  | error summary causes =>
    some (summary ++ "\n\nCaused by:\n" ++ "\n".intercalate (reasons causes))
  | breakdown _ => none

end Fault

/-- What a module did. -/
structure ModuleRun where
  /-- What stands in standard output at its end. -/
  stdout : String
  /-- What stands in standard error at its end. -/
  stderr : String
  /-- How it left the search path. -/
  searchPath : List Path
  /-- The fault with which it ended. -/
  fault : Option Fault
  deriving DecidableEq, Repr

/-- A tool that runs inside this program. -/
structure ToolModule where
  /-- Its name. -/
  name : String
  /-- What it does. -/
  run : ModuleCall → ModuleRun

/-- Runs the module, and leaves a trace of that. -/
def ToolModule.conduct (m : ToolModule) (call : ModuleCall) : Traced ModuleRun :=
  Traced.act (.run call.argv call.cwd call.stdin) (m.run call)

/-- Modules by name. -/
structure Registry where
  /-- The modules, in the order of their names. -/
  modules : List ToolModule

namespace Registry

/-- No module. -/
def empty : Registry := ⟨[]⟩

/-- Modules with one more, which takes the place of the one of the same name. -/
def insert (m : ToolModule) : List ToolModule → List ToolModule
  | [] => [m]
  | n :: rest =>
    if m.name = n.name then m :: rest
    else if m.name < n.name then m :: n :: rest
    else n :: insert m rest

/-- The registry with one more module. -/
def register (r : Registry) (m : ToolModule) : Registry := ⟨insert m r.modules⟩

/-- The module of a name. -/
def get? (r : Registry) (name : String) : Option ToolModule := r.modules.find? (·.name == name)

/-- The names, in order. -/
def names (r : Registry) : List String := r.modules.map (·.name)

/-- The names in quotes. -/
def listing (r : Registry) : String := Text.bracketed (r.names.map Text.quoted)

end Registry

end ToolRelay
