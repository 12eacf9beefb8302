import ToolRelay.Schema.OfJson
import ToolRelay.Uri.Parse

/-!
# Shapes of parameters

A `Shape` says which JSON values a method takes, where the server does not need what they hold.
`Shape.check` says what is wrong with a value that a shape does not fit.

A record takes an object, in which members that it does not know are ignored, or the sequence of
its members.  A merged record takes an object only: what its own members leave over is for its
parts, which look at it afterwards.
-/

namespace ToolRelay

/-- When a member of a record has to be there. -/
inductive Duty where
  /-- It has to be there. -/
  | always
  /-- It has to be there when the record is written as a sequence. -/
  | inSequence
  /-- It may be absent. -/
  | never
  deriving DecidableEq, Repr

mutual

/-- Which JSON values are taken. -/
inductive Shape where
  /-- Any value. -/
  | anything
  /-- A text. -/
  | text
  /-- A truth value. -/
  | flag
  /-- A number. -/
  | number
  /-- An integer of a range with a name. -/
  | integer (lo hi : Int) (range : String)
  /-- A URI, written as text. -/
  | uri
  /-- One of several names. -/
  | word (names : List String)
  /-- A value, or `null` for none. -/
  | optional (s : Shape)
  /-- A sequence. -/
  | list (s : Shape)
  /-- A value of one of two shapes, which have a name together. -/
  | either (name : String) (a b : Shape)
  /-- A record with a name. -/
  | record (name : String) (members : Members)
  /-- A record with a name that is made of parts. -/
  | merged (name : String) (own : Members) (parts : Parts)

/-- The members of a record. -/
inductive Members where
  /-- No member. -/
  | nil
  /-- A member and those after it. -/
  | cons (name : String) (duty : Duty) (s : Shape) (rest : Members)

/-- The parts of a merged record. -/
inductive Parts where
  /-- No part. -/
  | nil
  /-- A part with members of its own. -/
  | cons (members : Members) (rest : Parts)
  /-- A part that takes all members that are left, whatever their names. -/
  | others (s : Shape) (rest : Parts)

end

namespace Members

/-- The members in a list. -/
def ofList (members : List (String × Duty × Shape)) : Members :=
  members.foldr (fun (name, duty, s) rest => .cons name duty s rest) .nil

/-- How many members there are. -/
def size : Members → Nat
  | .nil => 0
  | .cons _ _ _ rest => rest.size + 1

/-- Whether there is a member with a name. -/
def has (name : String) : Members → Bool
  | .nil => false
  | .cons n _ _ rest => n == name || rest.has name

/-- Complains about the first member that is missing in an object. -/
def checkPresence (given : List (String × Json)) : Members → Except Complaint Unit
  | .nil => .ok ()
  | .cons name duty _ rest =>
    if duty = .always ∧ (Json.lookup name given).isNone then .error (.missingField name)
    else rest.checkPresence given

end Members

/-- What is expected where a sequence of `n` items is too long; `aside` tells whether it had been
set aside. -/
def expectedItems (aside : Bool) (n : Nat) : String :=
  if aside then toString n ++ (if n = 1 then " element" else " elements") ++ " in sequence"
  else "fewer elements in array"

/-- Checks a URI. -/
def checkUri (s : String) : Except Complaint Unit :=
  match Uri.parse s with
  | .ok _ => .ok ()
  | .error flaw => .error (.wrongValue (.text s) flaw.message)

mutual

/-- Complains about a value that does not have a shape; `aside` tells whether the value had been set
aside for a part of a merged record. -/
def Shape.check (aside : Bool) : Shape → Json → Except Complaint Unit
  | .anything, _ => .ok ()
  | .text, j =>
    match j with
    | .text _ => .ok ()
    | j => .error (.wrongKind j.found "a string")
  | .flag, j =>
    match j with
    | .bool _ => .ok ()
    | j => .error (.wrongKind j.found "a boolean")
  | .number, j =>
    match j with
    | .int _ | .real _ => .ok ()
    | j => .error (.wrongKind j.found "f32")
  | .integer lo hi range, j =>
    match j with
    | .int n => (Schema.inRange lo hi n range).map fun _ => ()
    | j => .error (.wrongKind j.found range)
  | .uri, j =>
    match j with
    | .text s => checkUri s
    | j => .error (.wrongKind j.found "a string representing an URL")
  | .word names, j => (Choice.mk (names.map (·, ())) fun _ => "").decode j
  | .optional s, j =>
    match j with
    | .null => .ok ()
    | j => s.check aside j
  | .list s, j =>
    match j with
    | .array items => items.forM (s.check aside)
    | j => .error (.wrongKind j.found "a sequence")
  | .either name a b, j =>
    match a.check true j, b.check true j with
    | .error _, .error _ => .error (.noVariant name)
    | _, _ => .ok ()
  | .record name members, j =>
    match j with
    | .array items => do
      let left ← members.checkItems aside name members.size 0 items
      if left.isEmpty then return ()
      else throw (.wrongLength items.length (expectedItems aside members.size))
    | .object given => do
      given.forM fun (name, j) => members.checkMember aside name j
      members.checkPresence given
    | j => .error (.wrongKind j.found ("struct " ++ name))
  | .merged name own parts, j =>
    match j with
    | .object given => do
      given.forM fun (name, j) => own.checkMember aside name j
      own.checkPresence given
      parts.check (given.filter fun (name, _) => !own.has name)
    | j => .error (.wrongKind j.found ("struct " ++ name))

/-- Checks the items of a sequence as the members of the record `record`, which has `total` of
them; `index` items come before.  Gives the items left over. -/
def Members.checkItems (aside : Bool) (record : String) (total : Nat) : Members → (index : Nat) →
    List Json → Except Complaint (List Json)
  | .nil, _, items => .ok items
  | .cons _ duty s rest, index, items =>
    match items with
    | j :: items => do
      s.check aside j
      rest.checkItems aside record total (index + 1) items
    | [] =>
      if duty = .never then rest.checkItems aside record total (index + 1) []
      else .error (.wrongLength index (Fields.expectedLength record total))

/-- Checks a member of an object; one that is not known is ignored. -/
def Members.checkMember (aside : Bool) : Members → String → Json → Except Complaint Unit
  | .nil, _, _ => .ok ()
  | .cons name _ s rest, key, j =>
    if key = name then s.check aside j else rest.checkMember aside key j

/-- Checks the members that are left for the parts of a merged record. -/
def Parts.check : Parts → List (String × Json) → Except Complaint Unit
  | .nil, _ => .ok ()
  | .cons members rest, left => do
    left.forM fun (name, j) => members.checkMember true name j
    members.checkPresence left
    rest.check left
  | .others s rest, left => do
    left.forM fun (_, j) => s.check true j
    rest.check left

end

end ToolRelay
