import ToolRelay.Text.Blank
import ToolRelay.Text.Utf8

/-!
# Frames

An editor and its session exchange texts in frames: a header that says how many octets the text
has, an empty line, and the text.

* `Frame.encode` puts a text into a frame.
* `Frame.readAll` takes the frames from the beginning of an input.
-/

namespace ToolRelay

namespace Frame

/-- The field of the header that says how long the text is. -/
def lengthField : List Char := "Content-Length:".toList

/-- What ends a header. -/
def headerEnd : Bytes := [0x0D, 0x0A, 0x0D, 0x0A]

/-- A text in its frame. -/
def encode (text : String) : Bytes :=
  let content := Utf8.encode text
  Utf8.encode (String.ofList lengthField ++ " " ++ toString content.length) ++ headerEnd ++ content

/-- The number that digits between blanks spell. -/
def number? (cs : List Char) : Option Nat :=
  let digits := cs.filter fun c => !Text.isBlank c
  if digits.isEmpty || digits.any (!·.isDigit) then none
  else some (digits.foldl (fun n c => n * 10 + (c.toNat - 0x30)) 0)

/-- The length in a line of a header. -/
def lengthInLine? (line : List Char) : Option Nat :=
  if lengthField.isPrefixOf line then number? (line.drop lengthField.length) else none

/-- The length in a header. -/
def lengthIn? (header : Bytes) : Option Nat :=
  (Text.splitOnAll (· == '\n') (Utf8.lossy header).toList).findSome? lengthInLine?

/-- The header at the beginning of an input, and what follows it; `done` has been read before, last
octet first. -/
def cutHeader (done : Bytes) : Bytes → Option (Bytes × Bytes)
  | [] => none
  | b :: rest =>
    if headerEnd.isPrefixOf (b :: rest) then
      some (done.reverse, (b :: rest).drop headerEnd.length)
    else cutHeader (b :: done) rest

/-- What an input begins with. -/
inductive Head where
  /-- The frame is not complete. -/
  | incomplete
  /-- A header without a length. -/
  | broken (rest : Bytes)
  /-- A frame. -/
  | frame (content rest : Bytes)
  deriving DecidableEq, Repr

/-- What an input begins with. -/
def head (input : Bytes) : Head :=
  match cutHeader [] input with
  | none => .incomplete
  | some (header, rest) =>
    match lengthIn? header with
    | none => .broken rest
    | some n => if n ≤ rest.length then .frame (rest.take n) (rest.drop n) else .incomplete

/-- The contents of the frames that an input begins with, `fuel` of them at most; there is none for
a header without a length. -/
def read : (fuel : Nat) → Bytes → List (Option Bytes)
  | 0, _ => []
  | fuel + 1, input =>
    match head input with
    | .incomplete => []
    | .broken rest => none :: read fuel rest
    | .frame content rest => some content :: read fuel rest

/-- The contents of all frames that an input begins with. -/
def readAll (input : Bytes) : List (Option Bytes) := read input.length input

end Frame

end ToolRelay
