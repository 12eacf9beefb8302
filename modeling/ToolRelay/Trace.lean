import ToolRelay.Path.Basic

/-!
# Traced computations

What the program does to the outside world while it computes: it writes notes into its own
diagnostic log, sends messages to the editor, runs modules and starts commands.  `Traced` pairs a
value with the events on the way to it, in order.

* `Traced.notes`, `Traced.messages` and `Traced.deeds` are the events of each kind.
-/

namespace ToolRelay

/-- How serious a diagnostic note is. -/
inductive Severity where
  /-- Something was ignored or replaced by a default. -/
  | warn
  /-- Something failed. -/
  | error
  deriving DecidableEq, Repr

/-- The kind of a message to the editor. -/
inductive MessageLevel where
  /-- A failure. -/
  | error
  /-- Something to look at. -/
  | warning
  /-- Something to know. -/
  | info
  /-- A line for the output log only. -/
  | log
  deriving DecidableEq, Repr

/-- A message to the editor. -/
structure Message where
  /-- Its kind. -/
  level : MessageLevel
  /-- Its text. -/
  text : String
  /-- Whether it is raised as a notification; if not, it is a line of the output log. -/
  shown : Bool
  deriving DecidableEq, Repr

/-- A command line to start. -/
structure Command where
  /-- The executable: a path, or a name to look up. -/
  program : String
  /-- The arguments after the executable. -/
  args : List String
  /-- The directory to start in; `none` for the current one. -/
  dir : Option Path
  /-- Variables set on top of the environment. -/
  env : List (String × String)
  deriving DecidableEq, Repr

/-- Something that is set going. -/
inductive Deed where
  /-- A module runs, with these arguments, in this directory and on this standard input. -/
  | run (argv : List String) (cwd : Path) (stdin : Option String)
  /-- The system is asked to start a command, which it may refuse. -/
  | start (command : Command)
  deriving DecidableEq, Repr

/-- An event on the way to a value. -/
inductive Event where
  /-- A note in the diagnostic log. -/
  | note (severity : Severity) (text : String)
  /-- A message to the editor. -/
  | message (m : Message)
  /-- A module or a command is set going. -/
  | deed (d : Deed)
  deriving DecidableEq, Repr

/-- A value, and what happened on the way to it. -/
structure Traced (α : Type) where
  /-- The value. -/
  value : α
  /-- The events, first to last. -/
  events : List Event
  deriving Repr

namespace Traced

instance : Monad Traced where
  pure a := ⟨a, []⟩
  bind x f := ⟨(f x.value).value, x.events ++ (f x.value).events⟩

/-- Writes a note into the diagnostic log. -/
def note (severity : Severity) (text : String) : Traced Unit := ⟨(), [.note severity text]⟩

/-- Writes a warning into the diagnostic log. -/
def warn (text : String) : Traced Unit := note .warn text

/-- Writes a failure into the diagnostic log. -/
def fail (text : String) : Traced Unit := note .error text

/-- Sends a message to the editor. -/
def send (m : Message) : Traced Unit := ⟨(), [.message m]⟩

/-- Sets a module or a command going, which leads to `a`. -/
def act {α : Type} (d : Deed) (a : α) : Traced α := ⟨a, [.deed d]⟩

/-- The notes of a computation, in order. -/
def notes {α : Type} (x : Traced α) : List (Severity × String) :=
  x.events.filterMap fun
    | .note s t => some (s, t)
    | .message _ | .deed _ => none

/-- The messages of a computation, in order. -/
def messages {α : Type} (x : Traced α) : List Message :=
  x.events.filterMap fun
    | .message m => some m
    | .note _ _ | .deed _ => none

/-- The modules and commands that a computation sets going, in order. -/
def deeds {α : Type} (x : Traced α) : List Deed :=
  x.events.filterMap fun
    | .deed d => some d
    | .note _ _ | .message _ => none

@[simp]
theorem value_pure {α : Type} (a : α) : (pure a : Traced α).value = a := rfl

@[simp]
theorem events_pure {α : Type} (a : α) : (pure a : Traced α).events = [] := rfl

@[simp]
theorem value_bind {α β : Type} (x : Traced α) (f : α → Traced β) :
    (x >>= f).value = (f x.value).value := rfl

@[simp]
theorem events_bind {α β : Type} (x : Traced α) (f : α → Traced β) :
    (x >>= f).events = x.events ++ (f x.value).events := rfl

@[simp]
theorem messages_pure {α : Type} (a : α) : (pure a : Traced α).messages = [] := rfl

@[simp]
theorem messages_bind {α β : Type} (x : Traced α) (f : α → Traced β) :
    (x >>= f).messages = x.messages ++ (f x.value).messages := List.filterMap_append ..

@[simp]
theorem messages_note (severity : Severity) (text : String) : (note severity text).messages = [] :=
  rfl

@[simp]
theorem messages_send (m : Message) : (send m).messages = [m] := rfl

@[simp]
theorem value_act {α : Type} (d : Deed) (a : α) : (act d a).value = a := rfl

@[simp]
theorem events_act {α : Type} (d : Deed) (a : α) : (act d a).events = [.deed d] := rfl

@[simp]
theorem messages_act {α : Type} (d : Deed) (a : α) : (act d a).messages = [] := rfl

@[simp]
theorem deeds_pure {α : Type} (a : α) : (pure a : Traced α).deeds = [] := rfl

@[simp]
theorem deeds_bind {α β : Type} (x : Traced α) (f : α → Traced β) :
    (x >>= f).deeds = x.deeds ++ (f x.value).deeds := List.filterMap_append ..

@[simp]
theorem deeds_note (severity : Severity) (text : String) : (note severity text).deeds = [] := rfl

@[simp]
theorem deeds_send (m : Message) : (send m).deeds = [] := rfl

@[simp]
theorem deeds_act {α : Type} (d : Deed) (a : α) : (act d a).deeds = [d] := rfl

end Traced

end ToolRelay
