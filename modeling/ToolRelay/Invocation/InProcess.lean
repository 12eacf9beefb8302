import ToolRelay.Invocation.Basic
import ToolRelay.Module.Basic

/-!
# Running modules inside this program

The first argument names the module.  A module begins with nothing written and may change the
search path while it runs; when it has ended, in whatever way, the search path is what it was
before.  A run that ends with a fault gives nothing but the fault.
-/

namespace ToolRelay

/-- The modules of this program and the search path they run with. -/
structure InProcess where
  /-- The modules. -/
  registry : Registry
  /-- The module search path. -/
  searchPath : List Path

namespace InProcess

/-- The search path is kept, a module runs with it, and it is put back afterwards. -/
def withPath (b : InProcess) (run : List Path → Traced ModuleRun) :
    Traced (ModuleRun × InProcess) := do
  let saved := b.searchPath
  let r ← run b.searchPath
  let live : InProcess := { b with searchPath := r.searchPath }
  return (r, { live with searchPath := saved })

/-- Runs a module. -/
def conduct (b : InProcess) (i : Invocation) :
    Traced (Except Failure InvocationResult × InProcess) :=
  match i.argv with
  | [] => pure (.error ⟨.moduleFault, "Empty argument vector", none⟩, b)
  | name :: _ =>
    match b.registry.get? name with
    | none => pure (.error ⟨.moduleFault, "No module named '" ++ name ++ "'", none⟩, b)
    | some m => do
      let (r, b) ← b.withPath fun searchPath =>
        m.conduct ⟨i.argv, i.workingDir, i.stdinText, searchPath, "", ""⟩
      match r.fault with
      | none => return (.ok (.ofOutput r.stdout r.stderr), b)
      | some fault => return (.error ⟨.moduleFault, fault.message name, fault.cause⟩, b)

/-- What comes of running a module. -/
def invoke (b : InProcess) (i : Invocation) : Except Failure InvocationResult × InProcess :=
  (b.conduct i).value

end InProcess

end ToolRelay
