import ToolRelay.Remote.Pool

/-!
# Runners and their processes

A pool tells which runners can be used.  A `Fleet` is a pool that keeps the books on processes as
well: every attempt to start one, and how each one that is not used any more came to its end.
`Fleet.pool` closes the books.

* `Fleet.invoke` runs a module: a runner is looked up or started, and killed if it fails.
* `Fleet.shutdown` asks every runner to exit.
-/

namespace ToolRelay

namespace Remote

/-- How the process of a runner was brought to its end. -/
inductive Ending where
  /-- It was killed at a moment. -/
  | killed (moment : Moment)
  /-- It was left to exit by itself. -/
  | exited
  deriving DecidableEq, Repr

/-- A process that has been stopped, and all that was done to it. -/
structure Departure where
  /-- The process. -/
  process : Process
  /-- What was done to its standard input. -/
  feeds : List Feed
  /-- How it was brought to its end. -/
  ending : Ending

/-- When and how the process ended, if it did: by itself, or by being killed. -/
def Departure.exit? (d : Departure) : Option (Moment × Exit) :=
  let course := d.process.course d.feeds
  match d.ending with
  | .killed moment => some (course.endingIfKilled moment)
  | .exited => course.ending

namespace Conversation

/-- Closes the input of the runner and kills it. -/
def kill (c : Conversation) : Departure :=
  ⟨c.process, c.feeds ++ [.close c.now], .killed c.now⟩

/-- How many milliseconds a runner has to exit when it is asked to. -/
def graceMs : Nat := 500

/-- The line that asks a runner to exit. -/
def exitLine : Except Unwritable String :=
  Wire.encodeLine Wire.Request.schema (.make none Wire.methodExit .null)

/-- The conversation when the runner has been asked to exit, whether or not that can be written;
there is none if the program waits for ever. -/
def ask? (c : Conversation) : Option Conversation :=
  match exitLine with
  | .error _ => some c
  | .ok line =>
    match c.send line with
    | (.error .halt, _) => none
    | (_, c) => some c

/-- How long the program waits for a runner whose input was closed at the moment `closed` to end:
until the grace is over, or until the system refuses to say whether it has ended. -/
def patience (course : Course) (closed : Moment) : Moment :=
  match course.waitRefusal with
  | some (moment, _) => min (max closed moment) (closed + graceMs)
  | none => closed + graceMs

/-- Closes the input of a runner that has been asked to exit, and waits for it to end; one that does
not end in time is killed. -/
def dismiss (c : Conversation) : Departure :=
  let feeds := c.feeds ++ [.close c.now]
  let course := c.process.course feeds
  let last := patience course c.now
  let isOver := course.ending.any (·.1 ≤ last)
  ⟨c.process, feeds, if isOver then .exited else .killed last⟩

/-- Asks the runner to exit and makes sure that it does. -/
def terminate? (c : Conversation) : Option Departure := c.ask?.map dismiss

end Conversation

/-- A runner that can be used. -/
structure Member where
  /-- The number of its process: how many attempts to start one came before. -/
  number : Nat
  /-- What it is told apart by. -/
  key : Key
  /-- The conversation with it. -/
  conversation : Conversation

/-- A pool that keeps the books on processes. -/
structure Fleet where
  /-- The arguments after the interpreter that make it a runner. -/
  runnerArgs : List String
  /-- How many milliseconds a response may take; 0 for as long as it wants. -/
  timeoutMs : Nat
  /-- The runners that can be used. -/
  members : List Member
  /-- The identity of the next request; after the greatest one they begin anew. -/
  nextId : UInt64
  /-- The attempts to start a process: for which key, and what came of it. -/
  attempts : List (Key × Except TransportError Conversation)
  /-- The processes that have been stopped, by number.  The program may wait for ever for one of
  them to take the line that asks it to exit, and then it has come to no end. -/
  stopped : List (Nat × Option Departure)

namespace Fleet

/-- A fleet before the first attempt. -/
def new (runnerArgs : List String) (timeoutMs : Nat) : Fleet :=
  ⟨runnerArgs, timeoutMs, [], 1, [], []⟩

/-- The fleet without its books. -/
def pool (f : Fleet) : Pool where
  runnerArgs := f.runnerArgs
  timeoutMs := f.timeoutMs
  runners := f.members.map fun m => (m.key, m.conversation)
  nextId := f.nextId

/-- The runner of a key. -/
def find? (f : Fleet) (key : Key) : Option Member := f.members.find? (·.key.agrees key)

/-- The runners of all other keys. -/
def others (f : Fleet) (key : Key) : List Member := f.members.filter (!·.key.agrees key)

/-- The fleet after an attempt to start a runner that failed. -/
def missed (f : Fleet) (key : Key) (e : TransportError) : Fleet :=
  { f with attempts := f.attempts ++ [(key, .error e)] }

/-- The runner that the next attempt starts. -/
def recruit (f : Fleet) (key : Key) (c : Conversation) : Member := ⟨f.attempts.length, key, c⟩

/-- The fleet after an attempt to start a runner, which belongs to the fleet from now on. -/
def enlist (f : Fleet) (key : Key) (c : Conversation) : Fleet :=
  { f with
    members := f.recruit key c :: f.members
    attempts := f.attempts ++ [(key, .ok c)] }

/-- The runner of a key.  If there is none, it is attempted to start one. -/
def memberFor (host : Host) (f : Fleet) (key : Key) : Except TransportError Member × Fleet :=
  match f.find? key with
  | some m => (.ok m, f)
  | none =>
    match f.pool.spawn host key with
    | .error e => (.error e, f.missed key e)
    | .ok c => (.ok (f.recruit key c), f.enlist key c)

/-- Kills a runner, which does not belong to the fleet any more.  A newer runner of the same key
would stay. -/
def evict (f : Fleet) (m : Member) : Fleet :=
  let isCurrent := (f.find? m.key).any (·.number == m.number)
  { f with
    members := if isCurrent then f.others m.key else f.members
    stopped := f.stopped ++ [(m.number, some m.conversation.kill)] }

/-- The fleet when one more request has been made. -/
def asked (f : Fleet) : Fleet := { f with nextId := f.nextId + 1 }

/-- The fleet when the conversation with a runner has gone on. -/
def keep (f : Fleet) (key : Key) (m : Member) (c : Conversation) : Fleet :=
  { f with members := ⟨m.number, key, c⟩ :: f.others key }

/-- Runs a module in the runner for its target.  There is no result if the program waits for
ever. -/
def invoke (host : Host) (f : Fleet) (t : Target) (i : Invocation) : InvocationResult × Fleet :=
  match f.memberFor host t.key with
  | (.error e, f) => (.failed ⟨.transport, e.message, none⟩, f)
  | (.ok m, f) =>
    match Pool.call m.conversation f.timeoutMs f.nextId.toNat t i with
    | (.ok reply, c) => (Pool.resultOf reply, f.asked.keep t.key m c)
    | (.error (.error e), c) =>
      (.failed ⟨.transport, e.message, none⟩, f.asked.evict { m with conversation := c })
    | (.error .halt, c) => (.pending, f.asked.keep t.key m c)

/-- Asks every runner to exit. -/
def shutdown (f : Fleet) : Fleet :=
  { f with
    members := []
    stopped := f.stopped ++ f.members.map fun m => (m.number, m.conversation.terminate?) }

end Fleet

end Remote

end ToolRelay
