import ToolRelay.Json.Complaint

/-!
# Shapes of structured data

A `Schema α` describes how a value of type `α` is written as structured data.  One description
serves for writing JSON, for reading a JSON value, for reading JSON text on the way, and for
reading a TOML table.

A record is a list of named fields; each is required, or has a default for when it is absent, and
may be left out when written as `null`.  A record can also be written as the sequence of its
fields, and a choice as an object with one member that says nothing.
-/

namespace ToolRelay

/-- A type whose values have names. -/
structure Choice (α : Type) where
  /-- Every accepted name, with what it means, in the order in which they are listed. -/
  names : List (String × α)
  /-- The name by which a value is written. -/
  name : α → String

/-- What a name means. -/
def Choice.find? {α : Type} (c : Choice α) (name : String) : Option α :=
  (c.names.find? (·.1 == name)).map (·.2)

/-- The value that `name` means, or the complaint that it means none. -/
def Choice.read {α : Type} (c : Choice α) (name : String) : Except Complaint α :=
  match c.find? name with
  | some a => .ok a
  | none => .error (.unknownName name (c.names.map (·.1)))

/-- What becomes of a field that is absent. -/
inductive Presence (α : Type) where
  /-- The field must be there. -/
  | required
  /-- The field has a value when it is absent. -/
  | orElse (value : α)
  /-- The same, and the field is left out when it would be written as `null`. -/
  | orOmitted (value : α)

/-- The value of a field that is absent. -/
def Presence.value? {α : Type} : Presence α → Option α
  | .required => none
  | .orElse a => some a
  | .orOmitted a => some a

mutual

/-- How values of a type are written as structured data. -/
inductive Schema : Type → Type 1 where
  /-- A text. -/
  | text : Schema String
  /-- A path, written as text. -/
  | path : Schema Path
  /-- A truth value. -/
  | flag : Schema Bool
  /-- A natural number below `2 ^ 64`. -/
  | count : Schema Nat
  /-- An integer of 64 bits. -/
  | code : Schema Int
  /-- Any value. -/
  | any : Schema Json
  /-- A value, or `null` for none. -/
  | optional {α : Type} (s : Schema α) : Schema (Option α)
  /-- A sequence. -/
  | list {α : Type} (s : Schema α) : Schema (List α)
  /-- One of several names. -/
  | choice {α : Type} (c : Choice α) : Schema α
  /-- A record with a name. -/
  | record {α β σ : Type} (name : String) (fields : Fields σ β) (ofFields : β → α)
      (toFields : α → β) : Schema α

/-- The fields of a record, `β` all together.  While they are read, `σ` holds those that have been
read. -/
inductive Fields : Type → Type → Type 1 where
  /-- No field. -/
  | nil : Fields Unit Unit
  /-- A field and those after it. -/
  | cons {α β σ : Type} (name : String) (presence : Presence α) (s : Schema α)
      (rest : Fields σ β) : Fields (Option α × σ) (α × β)

end

namespace Fields

/-- How many fields there are. -/
def size : {σ β : Type} → Fields σ β → Nat
  | _, _, .nil => 0
  | _, _, .cons _ _ _ rest => rest.size + 1

/-- Nothing read yet. -/
def empty : {σ β : Type} → Fields σ β → σ
  | _, _, .nil => ()
  | _, _, .cons _ _ _ rest => (none, rest.empty)

/-- The fields from what has been read; absent ones get their value, and the first required one
that is absent is a complaint. -/
def gather : {σ β : Type} → Fields σ β → σ → Except Complaint β
  | _, _, .nil, _ => .ok ()
  | _, _, .cons name presence _ rest, (slot, slots) =>
    match slot with
    | some a => do return (a, ← rest.gather slots)
    | none =>
      match presence.value? with
      | some a => do return (a, ← rest.gather slots)
      | none => .error (.missingField name)

/-- What is expected where a sequence with the fields of the record `record` is too short. -/
def expectedLength (record : String) (n : Nat) : String :=
  "struct " ++ record ++ " with " ++ toString n ++ (if n = 1 then " element" else " elements")

end Fields

namespace Schema

/-- What is expected, in words, where a value of another kind is found. -/
def expected : {α : Type} → Schema α → String
  | _, .text => "a string"
  | _, .path => "path string"
  | _, .flag => "a boolean"
  | _, .count => "u64"
  | _, .code => "i64"
  | _, .any => "any value"
  | _, .optional _ => "option"
  | _, .list _ => "a sequence"
  | _, .choice _ => "string or map"
  | _, .record name _ _ _ => "struct " ++ name

/-- A natural number read as a count or as a code, where `lo` and `hi` are the ends of the
range. -/
def inRange (lo hi n : Int) (expected : String) : Except Complaint Int :=
  if lo ≤ n ∧ n ≤ hi then .ok n else .error (.wrongValue (.int n) expected)

/-- An integer as a count. -/
def readCount (n : Int) : Except Complaint Nat :=
  (inRange 0 0xFFFFFFFFFFFFFFFF n "u64").map Int.toNat

/-- An integer as a code. -/
def readCode (n : Int) : Except Complaint Int :=
  inRange (-0x8000000000000000) 0x7FFFFFFFFFFFFFFF n "i64"

end Schema

end ToolRelay
