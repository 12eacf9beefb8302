import ToolRelay.Settings.Choices
import ToolRelay.Trace

/-!
# The output channel

Every message becomes a line of the editor's output log.  Whether it is also raised as a
notification depends on its level and on how much the channel lets through.
-/

namespace ToolRelay

/-- Whether a message is raised as a notification. -/
def MessageLevel.isRaised (level : MessageLevel) (setting : NotificationLevel) : Bool :=
  match level with
  | .error => 1 ≤ setting.rank
  | .warning => 2 ≤ setting.rank
  | .info => 3 ≤ setting.rank
  | .log => false

/-- The number by which the editor knows a level. -/
def MessageLevel.number : MessageLevel → Nat
  | .error => 1
  | .warning => 2
  | .info => 3
  | .log => 4

/-- A channel to the editor. -/
structure OutputChannel where
  /-- Which messages are raised as notifications. -/
  notifications : NotificationLevel
  deriving DecidableEq, Repr

namespace OutputChannel

/-- The same channel, which raises at least as much as `level` asks for. -/
def atLeast (channel : OutputChannel) (level : NotificationLevel) : OutputChannel :=
  ⟨channel.notifications.max level⟩

/-- Writes a message into the output log and raises it if it should be. -/
def emit (channel : OutputChannel) (level : MessageLevel) (text : String) : Traced Unit := do
  Traced.send ⟨level, text, false⟩
  if level.isRaised channel.notifications then Traced.send ⟨level, text, true⟩

/-- Writes a line for the output log. -/
def log (channel : OutputChannel) (text : String) : Traced Unit := channel.emit .log text

/-- Reports a failure. -/
def error (channel : OutputChannel) (text : String) : Traced Unit := channel.emit .error text

/-- Warns. -/
def warning (channel : OutputChannel) (text : String) : Traced Unit := channel.emit .warning text

/-- Says something to know. -/
def info (channel : OutputChannel) (text : String) : Traced Unit := channel.emit .info text

end OutputChannel

end ToolRelay
