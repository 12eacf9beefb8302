import ToolRelay.Schema.Basic

/-!
# Settings with a few named values

Where bundled modules stand on the search path, and how much is raised as a notification.  Both
can be set by the editor, by the configuration file and by a variable of the environment.
-/

namespace ToolRelay

/-- Where the directory of bundled modules stands on the module search path. -/
inductive ImportStrategy where
  /-- Before everything else. -/
  | bundled
  /-- After everything else. -/
  | fromEnvironment
  deriving DecidableEq, Repr, Inhabited

namespace ImportStrategy

/-- The name by which a strategy is written. -/
def name : ImportStrategy → String
  | bundled => "useBundled"
  | fromEnvironment => "fromEnvironment"

/-- The strategies by name; the bundled one has a short name too, which comes first in lists. -/
def choice : Choice ImportStrategy where
  names := [("bundled", bundled), ("useBundled", bundled), ("fromEnvironment", fromEnvironment)]
  name := name

/-- The strategy when nothing is said. -/
def standard : ImportStrategy := bundled

/-- The variable of the environment that sets it. -/
def key : String := "LS_IMPORT_STRATEGY"

end ImportStrategy

/-- Which messages are raised as notifications, from none to all. -/
inductive NotificationLevel where
  /-- None. -/
  | off
  /-- Errors. -/
  | onError
  /-- Errors and warnings. -/
  | onWarning
  /-- All of them. -/
  | always
  deriving DecidableEq, Repr, Inhabited

namespace NotificationLevel

/-- The name by which a level is written. -/
def name : NotificationLevel → String
  | off => "off"
  | onError => "onError"
  | onWarning => "onWarning"
  | always => "always"

/-- The levels by name. -/
def choice : Choice NotificationLevel where
  names := [("off", off), ("onError", onError), ("onWarning", onWarning), ("always", always)]
  name := name

/-- The level when nothing is said. -/
def standard : NotificationLevel := off

/-- The variable of the environment that sets it. -/
def key : String := "LS_SHOW_NOTIFICATION"

/-- How much a level lets through. -/
def rank : NotificationLevel → Nat
  | off => 0
  | onError => 1
  | onWarning => 2
  | always => 3

/-- The louder of two levels. -/
def max (a b : NotificationLevel) : NotificationLevel := if a.rank ≤ b.rank then b else a

end NotificationLevel

/-- Which check the text of a document must pass. -/
inductive SyntaxCheckKind where
  /-- Every text passes. -/
  | none
  /-- Brackets must balance outside of quoted texts. -/
  | delimiters
  deriving DecidableEq, Repr, Inhabited

namespace SyntaxCheckKind

/-- The name by which a check is written. -/
def name : SyntaxCheckKind → String
  | none => "none"
  | delimiters => "delimiters"

/-- The checks by name. -/
def choice : Choice SyntaxCheckKind where
  names := [("none", none), ("delimiters", delimiters)]
  name := name

end SyntaxCheckKind

end ToolRelay
