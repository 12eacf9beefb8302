import ToolRelay.Settings.Choices
import ToolRelay.Settings.ConfigError
import ToolRelay.Trace
import ToolRelay.Text.Blank

/-!
# Settings from the environment

Three variables set the import strategy, the notification level and the module search path of the
whole process.  A value that means nothing is ignored with a warning.
-/

namespace ToolRelay

/-- What the environment says. -/
structure Environment where
  /-- Where bundled modules stand on the search path. -/
  importStrategy : ImportStrategy
  /-- Which messages are raised as notifications. -/
  showNotifications : NotificationLevel
  /-- The module search path. -/
  modulePath : List Path
  deriving DecidableEq, Repr

namespace Environment

/-- The variable that holds the module search path. -/
def pathKey : String := "LS_MODULE_PATH"

/-- The paths in a list whose items are separated by colons; empty items are dropped. -/
def pathList (s : String) : List Path :=
  ((Text.splitOnAll (· == ':') s.toList).filter (· ≠ [])).map (Path.ofString ∘ String.ofList)

/-- The choice that the variable `key` makes, or the one made `otherwise`. -/
def chosen {α : Type} (c : Choice α) (key : String) (otherwise : α) (value : Option String) :
    Traced α :=
  match value with
  | none => pure otherwise
  | some s =>
    match c.find? s with
    | some a => pure a
    | none => do
      Traced.warn ("Ignoring " ++ key ++ ": " ++ (ConfigError.invalidValue key s).message)
      pure otherwise

/-- What the variables say, which are looked up by `look`. -/
def ofVariables (look : String → Option String) : Traced Environment := do
  let strategy ← chosen ImportStrategy.choice ImportStrategy.key .standard
    (look ImportStrategy.key)
  let level ← chosen NotificationLevel.choice NotificationLevel.key .standard
    (look NotificationLevel.key)
  return ⟨strategy, level, ((look pathKey).map pathList).getD []⟩

end Environment

end ToolRelay
