import ToolRelay.Host.Basic
import ToolRelay.Text.Blank

/-!
# Conversations with a runner

A runner is a child process that answers lines with lines.  A `Conversation` remembers what has
been written to it, how many of its lines have been taken, and the moment of the last of these, so
that everything else follows from the process alone.

Something can go wrong in a conversation, and it can come to a halt: the pipe is full and nobody
reads it, or there is no time limit and nothing comes any more.  Then the program waits for ever.
-/

namespace ToolRelay

namespace Remote

/-- What can go wrong between the program and a runner. -/
inductive TransportError where
  /-- There is no command line to start. -/
  | noInterpreter
  /-- The runner cannot be started. -/
  | start (program : String) (reason : Refusal)
  /-- The request cannot be written. -/
  | write (reason : Refusal)
  /-- The response cannot be read. -/
  | read (reason : Refusal)
  /-- The runner has closed its output. -/
  | closed
  /-- There was no response in time. -/
  | timeout (timeoutMs : Nat)
  /-- The response is not what a response looks like, or the request cannot be written down. -/
  | malformed (reason : String)
  /-- The response answers another request. -/
  | foreignId (expected : Nat) (found : String)
  /-- The runner refuses the request. -/
  | refused (code : Int) (message : String)
  deriving DecidableEq, Repr

/-- The error in words. -/
def TransportError.message : TransportError → String
  | .noInterpreter => "No interpreter configured"
  | .start program reason => s!"Failed to start runner '{program}': {reason.message}"
  | .write reason => s!"Failed to send request: {reason.message}"
  | .read reason => s!"Failed to read response: {reason.message}"
  | .closed => "Runner closed the connection"
  | .timeout timeoutMs => s!"No response within {timeoutMs}ms"
  | .malformed reason => s!"Malformed response: {reason}"
  | .foreignId expected found => s!"Response id {found} does not match request id {expected}"
  | .refused code message => s!"Runner returned error {code}: {message}"

/-- Why a conversation does not go on. -/
inductive Obstacle where
  /-- Something goes wrong. -/
  | error (e : TransportError)
  /-- Nothing ever happens any more, and the program waits for ever. -/
  | halt
  deriving DecidableEq, Repr

/-- A conversation with a runner. -/
structure Conversation where
  /-- The runner. -/
  process : Process
  /-- What has been written to it. -/
  feeds : List Feed
  /-- The moment of the last event. -/
  now : Moment
  /-- How many of its lines have been taken. -/
  taken : Nat

namespace Conversation

/-- The beginning of a conversation. -/
def start (process : Process) : Conversation := ⟨process, [], 0, 0⟩

/-- The conversation at a moment, unless that has passed already. -/
def advance (c : Conversation) (moment : Moment) : Conversation :=
  { c with now := max c.now moment }

/-! ### What comes from a runner -/

/-- The bytes that a process writes, each with its moment. -/
def timedBytes (output : List (Moment × Bytes)) : List (Moment × UInt8) :=
  output.flatMap fun (moment, bytes) => bytes.map fun b => (moment, b)

/-- A line without a CR at its end. -/
def dropCr (line : Bytes) : Bytes := if line.getLast? = some 0x0D then line.dropLast else line

/-- The lines of an output, each with the moment when it is complete.  What is left after the last
line feed is a line once nobody can write any more. -/
def timedLines (output : List (Moment × Bytes)) (finish : Option Moment) :
    List (Moment × Bytes) :=
  let (lines, open_) := (timedBytes output).foldl
    (fun (lines, open_) (moment, b) =>
      if b = 0x0A then ((moment, dropCr open_.reverse) :: lines, []) else (lines, b :: open_))
    (([] : List (Moment × Bytes)), ([] : Bytes))
  let last := match finish with
    | some moment => if open_.isEmpty then [] else [(moment, open_.reverse)]
    | none => []
  lines.reverse ++ last

/-- What comes from a runner: a line, or the reason for which there are no more lines. -/
abbrev Arrival := Moment × Except TransportError Bytes

/-- Why there are no more lines and since when, if they come to an end: nobody can write any more,
or the system refuses to read. -/
def lastArrival? (course : Course) : Option Arrival :=
  let closing : Option Arrival := course.outputEnd.map (·, .error .closed)
  match course.readRefusal with
  | none => closing
  | some (moment, reason) =>
    if course.outputEnd.any (· ≤ moment) then closing else some (moment, .error (.read reason))

/-- All that comes from a runner. -/
def arrivals (course : Course) : List Arrival :=
  let lines := timedLines course.output course.outputEnd
  let readable := lines.takeWhile fun line => course.readRefusal.all fun r => line.1 < r.1
  readable.map (fun line => (line.1, .ok line.2)) ++ (lastArrival? course).toList

/-! ### Writing and reading -/

/-- The conversation when a line has been given to the pipe. -/
def tell (c : Conversation) (line : String) : Conversation :=
  { c with feeds := c.feeds ++ [.bytes c.now (Utf8.encode line)] }

/-- The course of the runner after all that has been written to it. -/
def course (c : Conversation) : Course := c.process.course c.feeds

/-- Writes a line to the runner, which may take a while. -/
def send (c : Conversation) (line : String) : Except Obstacle Unit × Conversation :=
  let c := c.tell line
  match c.course.delivery with
  | .complete moment => (.ok (), c.advance moment)
  | .refused moment reason => (.error (.error (.write reason)), c.advance moment)
  | .stuck => (.error .halt, c)

/-- Nothing comes by the deadline; if there is none, nothing ever comes. -/
def unanswered (c : Conversation) (timeoutMs : Nat) :
    (deadline : Option Moment) → Except Obstacle String × Conversation
  | some last => (.error (.error (.timeout timeoutMs)), c.advance last)
  | none => (.error .halt, c)

/-- The first of the lines that is not blank, if it comes in time; `deadline` is the last moment,
if there is one. -/
def firstLine (c : Conversation) (timeoutMs : Nat) (deadline : Option Moment) :
    List Arrival → Except Obstacle String × Conversation
  | [] => c.unanswered timeoutMs deadline
  | (moment, arrival) :: rest =>
    if deadline.any (· < moment) then c.unanswered timeoutMs deadline
    else
      let c := { c.advance moment with taken := c.taken + 1 }
      match arrival with
      | .error e => (.error (.error e), c)
      | .ok line =>
        match Utf8.decode? line with
        | none => (.error (.error (.read .notUtf8)), c)
        | some text =>
          if Text.isBlankText text then firstLine c timeoutMs deadline rest else (.ok text, c)

/-- Takes the next line that is not blank; it has `timeoutMs` milliseconds to come, or as long as
it wants if that is 0. -/
def receive (c : Conversation) (timeoutMs : Nat) : Except Obstacle String × Conversation :=
  let deadline := if timeoutMs = 0 then none else some (c.now + timeoutMs)
  c.firstLine timeoutMs deadline ((arrivals c.course).drop c.taken)

end Conversation

end Remote

end ToolRelay
