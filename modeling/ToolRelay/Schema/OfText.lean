import ToolRelay.Json.Value
import ToolRelay.Schema.Basic

/-!
# Reading JSON text by a schema

`Schema.readText` reads a value of the described type while it goes through the text, so that the
first thing wrong in the text is what is told, whether it is a matter of syntax or of shape.
Unknown members are skipped.
-/

namespace ToolRelay

open Json Json.Reader

/-- Fails because the value ahead is of another kind than `expected`.  The value is gone past as
far as it is needed to tell its kind. -/
def Json.Reader.failKind {α : Type} (expected : String) : Reader α := placed do
  match ← peek with
  | some 'n' => advance; word ['u', 'l', 'l']; failUnplaced (.wrongKind .null expected)
  | some 't' => advance; word ['r', 'u', 'e']; failUnplaced (.wrongKind (.bool true) expected)
  | some 'f' =>
    advance
    word ['a', 'l', 's', 'e']
    failUnplaced (.wrongKind (.bool false) expected)
  | some '-' => do
    advance
    failUnplaced (.wrongKind (← number true).found expected)
  | some '"' => do
    advance
    failUnplaced (.wrongKind (.text (← text)) expected)
  | some '[' => failUnplaced (.wrongKind .sequence expected)
  | some '\x7b' => failUnplaced (.wrongKind .map expected)
  | some c =>
    if isDigit c then failUnplaced (.wrongKind (← number false).found expected)
    else failAhead .valueDue
  | none => failAhead .valueDue

/-- The outcome of a check as a reader; a complaint has no place yet. -/
def Json.Reader.ofExcept {α : Type} : Except Complaint α → Reader α
  | .ok a => pure a
  | .error e => failUnplaced e

/-- The first character of a value that must be there. -/
def Json.Reader.valueAhead : Reader Char := do
  match ← peekFull with
  | none => failAhead .endInValue
  | some c => pure c

/-- Reads a text. -/
def Json.Reader.textValue (expected : String) : Reader String := placed do
  if (← valueAhead) = '"' then
    advance
    text
  else failKind expected

/-- Reads an integer by `check`. -/
def Json.Reader.integer {α : Type} (expected : String) (check : Int → Except Complaint α) :
    Reader α := placed do
  let c ← valueAhead
  if c = '-' ∨ isDigit c = true then
    if c = '-' then advance
    match ← number (c == '-') with
    | .int n => ofExcept (check n)
    | j => failUnplaced (.wrongKind j.found expected)
  else failKind expected

/-- Reads a choice from a text or from an object with one member. -/
def Choice.readText {α : Type} (c : Choice α) (depth : Nat) : Reader α := placed do
  match ← valueAhead with
  | '"' => do
    advance
    ofExcept (c.read (← text))
  | '\x7b' =>
    if depth ≤ 1 then failAhead .tooDeep
    else do
      advance
      skipBlanks
      let name ← textValue "variant identifier"
      let a ← ofExcept (c.read name)
      colon
      if (← valueAhead) = 'n' then
        advance
        word ['u', 'l', 'l']
      else failKind "unit"
      match ← peekFull with
      | some '\x7d' => advance; return a
      | some _ => failHere .valueDue
      | none => failHere .endInObject
  | _ => failAhead .valueDue

mutual

/-- Reads a value of the described type, with `depth` levels of arrays and objects to go. -/
def Schema.readText (depth : Nat) : {α : Type} → Schema α → Reader α
  | _, .text => textValue "a string"
  | _, .path => do return Path.ofString (← textValue "path string")
  | _, .flag => placed do
    match ← valueAhead with
    | 't' => advance; word ['r', 'u', 'e']; return true
    | 'f' => advance; word ['a', 'l', 's', 'e']; return false
    | _ => failKind "a boolean"
  | _, .count => integer "u64" Schema.readCount
  | _, .code => integer "i64" Schema.readCode
  | _, .any => value depth
  | _, .optional s => do
    match ← peekFull with
    | some 'n' => advance; word ['u', 'l', 'l']; return none
    | _ => return some (← s.readText depth)
  | _, .list s => placed do
    match ← valueAhead with
    | '[' =>
      if depth ≤ 1 then failAhead .tooDeep
      else inArray do items (s.readText (depth - 1)) (← room) []
    | _ => failKind "a sequence"
  | _, .choice c => c.readText depth
  | _, .record name fields ofFields _ => placed do
    match ← valueAhead with
    | '[' =>
      if depth ≤ 1 then failAhead .tooDeep
      else inArray do return ofFields (← fields.readItems (depth - 1) name fields.size 0)
    | '\x7b' =>
      if depth ≤ 1 then failAhead .tooDeep
      else
        let member := fields.readMember (depth - 1)
        inObject do
          let slots ← members member (← room) true fields.empty
          return ofFields (← ofExcept (fields.gather slots))
    | _ => failKind ("struct " ++ name)

/-- Reads the fields of the record `record`, which has `total` of them, from the items of an array,
`index` of which have been read. -/
def Fields.readItems (depth : Nat) (record : String) (total : Nat) :
    {σ β : Type} → Fields σ β → (index : Nat) → Reader β
  | _, _, .nil, _ => pure ()
  | _, _, .cons _ presence s rest, index => do
    if ← hasItem (index == 0) then
      let a ← s.readText depth
      return (a, ← rest.readItems depth record total (index + 1))
    else
      match presence.value? with
      | some a => return (a, ← rest.readItems depth record total (index + 1))
      | none => failUnplaced (.wrongLength index (Fields.expectedLength record total))

/-- Reads the value of one member of an object, from the colon on, into its slot. -/
def Fields.readMember (depth : Nat) : {σ β : Type} → Fields σ β → String → σ → Reader σ
  | _, _, .nil, _, slots => do
    colon
    skipValue
    return slots
  | _, _, .cons name _ s rest, key, (slot, slots) =>
    if key = name then
      match slot with
      | some _ => failUnplaced (.duplicateField name)
      | none => do
        colon
        return (some (← s.readText depth), slots)
    else do return (slot, ← rest.readMember depth key slots)

end

/-- Reads a whole text as a value of the described type. -/
def Schema.parse {α : Type} (s : Schema α) (input : String) : Except Json.Fault α :=
  run (s.readText maxDepth) input

end ToolRelay
