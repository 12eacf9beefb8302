import ToolRelay.Schema.Basic

/-!
# Reading JSON values by a schema

`Schema.decode` reads a value of the described type from a JSON value, or says what is wrong with
it.  Unknown members are ignored.
-/

namespace ToolRelay

/-- A value that says nothing, as it stands for a choice in an object. -/
def Json.readNothing : Json → Except Complaint Unit
  | .null => .ok ()
  | j => .error (.wrongKind j.found "unit")

/-- Reads a choice from a text or from an object with one member. -/
def Choice.decode {α : Type} (c : Choice α) : Json → Except Complaint α
  | .text s => c.read s
  | .object [(name, j)] => do
    let a ← c.read name
    j.readNothing
    return a
  | .object _ => .error (.wrongValue .map "map with a single key")
  | j => .error (.wrongKind j.found "string or map")

/-- All of `items` read by `decode`. -/
def Json.readAll {α : Type} (decode : Json → Except Complaint α) :
    List Json → Except Complaint (List α)
  | [] => .ok []
  | j :: rest => do
    let a ← decode j
    let as ← readAll decode rest
    return a :: as

/-- Goes through the members of an object; `member` is given what has been gathered, a name and
its value. -/
def Json.foldMembers {σ : Type} (member : σ → String → Json → Except Complaint σ) :
    σ → List (String × Json) → Except Complaint σ
  | gathered, [] => .ok gathered
  | gathered, (name, j) :: rest => do
    foldMembers member (← member gathered name j) rest

mutual

/-- Reads a value of the described type. -/
def Schema.decode : {α : Type} → Schema α → Json → Except Complaint α
  | _, .text, j =>
    match j with
    | .text s => .ok s
    | j => .error (.wrongKind j.found "a string")
  | _, .path, j =>
    match j with
    | .text s => .ok (Path.ofString s)
    | j => .error (.wrongKind j.found "path string")
  | _, .flag, j =>
    match j with
    | .bool b => .ok b
    | j => .error (.wrongKind j.found "a boolean")
  | _, .count, j =>
    match j with
    | .int n => Schema.readCount n
    | j => .error (.wrongKind j.found "u64")
  | _, .code, j =>
    match j with
    | .int n => Schema.readCode n
    | j => .error (.wrongKind j.found "i64")
  | _, .any, j => .ok j
  | _, .optional s, j =>
    match j with
    | .null => .ok none
    | j => (s.decode j).map some
  | _, .list s, j =>
    match j with
    | .array items => Json.readAll s.decode items
    | j => .error (.wrongKind j.found "a sequence")
  | _, .choice c, j => c.decode j
  | _, .record name fields ofFields _, j =>
    match j with
    | .array items => do
      let (b, left) ← fields.decodeItems name fields.size 0 items
      if left.isEmpty then return ofFields b
      else .error (.wrongLength items.length "fewer elements in array")
    | .object members => do
      let slots ← Json.foldMembers fields.decodeMember fields.empty members
      return ofFields (← fields.gather slots)
    | j => .error (.wrongKind j.found ("struct " ++ name))

/-- Reads the fields of the record `record`, which has `total` of them, from the items of a
sequence, `index` of which have been read; also gives the items left over. -/
def Fields.decodeItems (record : String) (total : Nat) : {σ β : Type} → Fields σ β →
    (index : Nat) → List Json → Except Complaint (β × List Json)
  | _, _, .nil, _, items => .ok ((), items)
  | _, _, .cons _ presence s rest, index, items =>
    match items with
    | j :: items => do
      let a ← s.decode j
      let (b, left) ← rest.decodeItems record total (index + 1) items
      return ((a, b), left)
    | [] =>
      match presence.value? with
      | some a => do
        let (b, left) ← rest.decodeItems record total (index + 1) []
        return ((a, b), left)
      | none => .error (.wrongLength index (Fields.expectedLength record total))

/-- Reads one member of an object into its slot. -/
def Fields.decodeMember : {σ β : Type} → Fields σ β → σ → String → Json → Except Complaint σ
  | _, _, .nil, slots, _, _ => .ok slots
  | _, _, .cons name _ s rest, (slot, slots), key, j =>
    if key = name then
      match slot with
      | some _ => .error (.duplicateField name)
      | none => do return (some (← s.decode j), slots)
    else do return (slot, ← rest.decodeMember slots key j)

end

end ToolRelay
