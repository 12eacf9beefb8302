import ToolRelay.Json.Reader

/-!
# Reading JSON values

* `Json.Reader.value` reads any value, `Json.parse` a whole text.
* `Json.Reader.skipValue` goes past a value that is not needed, with less care: it allows any
  nesting, any number and any code units.
* `Json.Reader.items`, `Json.Reader.members` and their ends are the frame of arrays and objects;
  reading a value of a known shape uses them too.

Arrays and objects may lie in each other up to a fixed depth.  A duplicate name in an object
replaces the value where the name stood first.
-/

namespace ToolRelay

namespace Json

namespace Reader

/-! ### The frame of arrays and objects -/

/-- Whether another item follows in an array, of which `first` says that none has been read. -/
def hasItem (first : Bool) : Reader Bool := do
  match ← peekFull with
  | none => failAhead .endInArray
  | some ']' => pure false
  | some c =>
    if first then pure true
    else if c = ',' then
      advance
      match ← peekFull with
      | none => failAhead .endInValue
      | some ']' => failAhead .trailingComma
      | some _ => pure true
    else failAhead .commaOrBracketDue

/-- Whether another member follows in an object, of which `first` says that none has been read. -/
def hasMember (first : Bool) : Reader Bool := do
  match ← peekFull with
  | none => failAhead .endInObject
  | some '\x7d' => pure false
  | some c =>
    if first then (if c = '"' then pure true else failAhead .nameDue)
    else if c = ',' then
      advance
      match ← peekFull with
      | none => failAhead .endInValue
      | some '"' => pure true
      | some '\x7d' => failAhead .trailingComma
      | some _ => failAhead .nameDue
    else failAhead .commaOrBraceDue

/-- The end of an array. -/
def endArray : Reader Unit := do
  match ← peekFull with
  | none => failAhead .endInArray
  | some ']' => advance
  | some ',' =>
    advance
    match ← peekFull with
    | some ']' => failAhead .trailingComma
    | _ => failAhead .trailingCharacters
  | some _ => failAhead .trailingCharacters

/-- The end of an object. -/
def endObject : Reader Unit := do
  match ← peekFull with
  | none => failAhead .endInObject
  | some '\x7d' => advance
  | some ',' => failAhead .trailingComma
  | some _ => failAhead .trailingCharacters

/-- The colon after a name. -/
def colon : Reader Unit := do
  match ← peekFull with
  | none => failAhead .endInObject
  | some ':' => advance
  | some _ => failAhead .colonDue

/-- The items of an array, each read by `item`; at most `fuel` of them, and `done` come before,
last first. -/
def items {α : Type} (item : Reader α) : (fuel : Nat) → (done : List α) → Reader (List α)
  | 0, _ => failHere .endInArray
  | fuel + 1, done => do
    if ← hasItem done.isEmpty then
      let a ← item
      items item fuel (a :: done)
    else pure done.reverse

/-- Goes through the members of an object; `member` is given each name and what has been gathered.
At most `fuel` members are read. -/
def members {β : Type} (member : String → β → Reader β) :
    (fuel : Nat) → (first : Bool) → β → Reader β
  | 0, _, _ => failHere .endInObject
  | fuel + 1, first, gathered => do
    if ← hasMember first then
      advance
      let name ← text
      let gathered ← member name gathered
      members member fuel false gathered
    else pure gathered

/-- More than the number of items or members that can follow. -/
def room : Reader Nat := fun c => .ok (c.rest.length + 1) c

/-- What lies between the brackets of an array, read by `inner` with one level less to go. -/
def inArray {α : Type} (inner : Reader α) : Reader α := do
  advance
  closedBy inner endArray

/-- What lies between the braces of an object, read by `inner` with one level less to go. -/
def inObject {α : Type} (inner : Reader α) : Reader α := do
  advance
  closedBy inner endObject

/-! ### Any value -/

/-- How many arrays and objects may lie in each other, plus one. -/
def maxDepth : Nat := 128

/-- Any value, with `depth` levels to go. -/
def value : (depth : Nat) → Reader Json
  | 0 => failAhead .tooDeep
  | depth + 1 => placed do
    match ← peekFull with
    | none => failAhead .endInValue
    | some 'n' => advance; word ['u', 'l', 'l']; pure .null
    | some 't' => advance; word ['r', 'u', 'e']; pure (.bool true)
    | some 'f' => advance; word ['a', 'l', 's', 'e']; pure (.bool false)
    | some '-' => advance; number true
    | some '"' => advance; return .text (← text)
    | some '[' =>
      if depth = 0 then failAhead .tooDeep
      else inArray do return .array (← items (value depth) (← room) [])
    | some '\x7b' =>
      if depth = 0 then failAhead .tooDeep
      else
        let member (name : String) (done : List (String × Json)) := do
          colon
          return put name (← value depth) done
        inObject do return .object (← members member (← room) true [])
    | some c => if isDigit c then number false else failAhead .valueDue

/-! ### A value that is not needed -/

/-- The two kinds of brackets. -/
inductive Bracket where
  /-- An array. -/
  | array
  /-- An object. -/
  | object
  deriving DecidableEq, Repr

/-- What is due inside a value that is not needed. -/
inductive Due where
  /-- A value. -/
  | value
  /-- The first item or member, or the end. -/
  | first
  /-- A comma or the end. -/
  | comma
  deriving DecidableEq, Repr

/-- The name and the colon before a value in an object. -/
def skipName : Reader Unit := do
  match ← peekFull with
  | none => failAhead .endInObject
  | some '"' => advance
  | some _ => failAhead .nameDue
  skipText
  match ← peekFull with
  | none => failAhead .endInObject
  | some ':' => advance
  | some _ => failAhead .colonDue

/-- Goes past the rest of a value, inside the brackets that `open_` lists, innermost first.  Each
step reads something, so `fuel` above the length of the text is enough. -/
def skipRest : (fuel : Nat) → Due → (open_ : List Bracket) → Reader Unit
  | 0, _, _ => failHere .endInValue
  | fuel + 1, .value, open_ => do
    match ← peekFull with
    | none => failAhead .endInValue
    | some 'n' => advance; word ['u', 'l', 'l']; afterValue fuel open_
    | some 't' => advance; word ['r', 'u', 'e']; afterValue fuel open_
    | some 'f' => advance; word ['a', 'l', 's', 'e']; afterValue fuel open_
    | some '-' => advance; skipNumber; afterValue fuel open_
    | some '"' => advance; skipText; afterValue fuel open_
    | some '[' => advance; skipRest fuel .first (.array :: open_)
    | some '\x7b' => advance; skipRest fuel .first (.object :: open_)
    | some c => if isDigit c then do skipNumber; afterValue fuel open_ else failAhead .valueDue
  | _ + 1, .first, [] => pure ()
  | fuel + 1, .first, b :: open_ => do
    match b, ← peekFull with
    | .array, none => failAhead .endInArray
    | .object, none => failAhead .endInObject
    | .array, some ']' => advance; afterValue fuel open_
    | .object, some '\x7d' => advance; afterValue fuel open_
    | .array, some _ => skipRest fuel .value (b :: open_)
    | .object, some _ => skipName; skipRest fuel .value (b :: open_)
  | _ + 1, .comma, [] => pure ()
  | fuel + 1, .comma, b :: open_ => do
    match b, ← peekFull with
    | .array, none => failAhead .endInArray
    | .object, none => failAhead .endInObject
    | .array, some ']' => advance; afterValue fuel open_
    | .object, some '\x7d' => advance; afterValue fuel open_
    | .array, some ',' => advance; skipRest fuel .value (b :: open_)
    | .object, some ',' => advance; skipName; skipRest fuel .value (b :: open_)
    | .array, some _ => failAhead .commaOrBracketDue
    | .object, some _ => failAhead .commaOrBraceDue
where
  /-- Goes on after a value inside `open_`. -/
  afterValue (fuel : Nat) (open_ : List Bracket) : Reader Unit :=
    if open_.isEmpty then pure () else skipRest fuel .comma open_

/-- Goes past a value that is not needed. -/
def skipValue : Reader Unit := do
  skipRest (2 * (← room)) .value []

/-! ### A whole text -/

/-- The end of the text. -/
def finish : Reader Unit := do
  match ← peekFull with
  | none => pure ()
  | some _ => failAhead .trailingCharacters

/-- Reads a whole text by `r`. -/
def run {α : Type} (r : Reader α) (s : String) : Except Fault α :=
  match (do let a ← r; finish; pure a : Reader α) (Text.Cursor.start s) with
  | .ok a _ => .ok a
  | .error f _ => .error f

end Reader

/-- The value that a text spells. -/
def parse (s : String) : Except Fault Json := Reader.run (Reader.value Reader.maxDepth) s

end Json

end ToolRelay
