import ToolRelay.Module.Basic
import ToolRelay.Json.Printer

/-!
# Scripted modules

A module given by the steps it performs: it writes texts and what it was given, changes the search
path, and may end with a fault.
-/

namespace ToolRelay

namespace Script

/-- A step of a scripted module. -/
inductive Step where
  /-- Writes a text to standard output. -/
  | out (text : String)
  /-- Writes a text to standard error. -/
  | err (text : String)
  /-- Writes the argument vector. -/
  | argv
  /-- Writes the arguments after the name of the module. -/
  | args
  /-- Writes the working directory. -/
  | cwd
  /-- Writes the standard input. -/
  | stdin
  /-- Writes a path seen from the working directory. -/
  | resolve (path : Path)
  /-- Writes the search path. -/
  | showPath
  /-- Puts a path at the end of the search path. -/
  | pushPath (path : Path)
  /-- Puts a path at the beginning of the search path. -/
  | insertPath (path : Path)
  /-- Empties the search path. -/
  | clearPath
  /-- Ends with a fault. -/
  | fail (fault : Fault)
  deriving DecidableEq, Repr

/-- A path as JSON: a text, or an object with the octets of a path that is no text. -/
def pathJson (p : Path) : Json :=
  match p.toString? with
  | some s => .text s
  | none =>
    let octet (b : UInt8) : List Char :=
      if b = 0x5C then ['\\', '\\']
      else if 0x20 ≤ b.toNat ∧ b.toNat ≤ 0x7E then [Char.ofNat b.toNat]
      else ['\\', 'x', Json.hexDigit (b.toNat / 16), Json.hexDigit (b.toNat % 16)]
    .object [("bytes", .text (String.ofList (p.bytes.flatMap octet)))]

/-- One step, unless there has been a fault. -/
def perform (call : ModuleCall) (r : ModuleRun) (step : Step) : ModuleRun :=
  match r.fault with
  | some _ => r
  | none =>
    match step with
    | .out text => { r with stdout := r.stdout ++ text }
    | .err text => { r with stderr := r.stderr ++ text }
    | .argv => { r with stdout := r.stdout ++ (Json.texts call.argv).compact }
    | .args => { r with stdout := r.stdout ++ (Json.texts call.args).compact }
    | .cwd => { r with stdout := r.stdout ++ (pathJson call.cwd).compact }
    | .stdin => { r with stdout := r.stdout ++ (Json.option .text call.stdin).compact }
    | .resolve path => { r with stdout := r.stdout ++ (pathJson (call.resolve path)).compact }
    | .showPath => { r with stdout := r.stdout ++ (Json.array (r.searchPath.map pathJson)).compact }
    | .pushPath path => { r with searchPath := r.searchPath ++ [path] }
    | .insertPath path => { r with searchPath := path :: r.searchPath }
    | .clearPath => { r with searchPath := [] }
    | .fail fault => { r with fault := some fault }

/-- The module of a name with the given steps. -/
def module_ (name : String) (steps : List Step) : ToolModule where
  name := name
  run call := steps.foldl (perform call) ⟨call.stdout, call.stderr, call.searchPath, none⟩

end Script

end ToolRelay
