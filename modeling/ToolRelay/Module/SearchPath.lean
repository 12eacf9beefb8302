import ToolRelay.Settings.Environment

/-!
# The module search path

The directories in which modules are looked for come from the environment.  The directory of
modules that come with the tool is added, before or after all others, unless it is already there
or does not exist.
-/

namespace ToolRelay

namespace SearchPath

/-- The search path with the directory of bundled modules. -/
def addBundled (host : Host) (bundled : Path) (strategy : ImportStrategy) (entries : List Path) :
    List Path :=
  if entries.any (·.agrees bundled) || !host.isDir bundled then entries
  else
    match strategy with
    | .bundled => bundled :: entries
    | .fromEnvironment => entries ++ [bundled]

/-- The search path from the environment. -/
def ofEnvironment (host : Host) (e : Environment) (bundled : Option Path) : List Path :=
  match bundled with
  | none => e.modulePath
  | some dir => addBundled host dir e.importStrategy e.modulePath

end SearchPath

end ToolRelay
