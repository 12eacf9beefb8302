import ToolRelay.Schema.Basic
import ToolRelay.Toml.Fault

/-!
# Reading TOML values by a schema

`Schema.ofToml` reads a value of the described type from a TOML value, or says what is wrong and
where.  Members are read in the order of their names; unknown members are ignored, and so is what
a sequence holds beyond the fields of a record.
-/

namespace ToolRelay

namespace Toml

mutual

/-- The JSON value that says the same; what is no number becomes `null`, a date or time its text. -/
def toJson : Toml → Json
  | .scalar _ (.text s) => .text s
  | .scalar _ (.integer n) => .int n
  | .scalar _ (.real (.finite x)) => .real x
  | .scalar _ (.real _) => .null
  | .scalar _ (.bool b) => .bool b
  | .scalar _ (.moment s) => .text s
  | .array _ _ items => .array (toJsonItems items)
  | .table _ _ members => .object (toJsonMembers members)

/-- The JSON values of the items of an array. -/
def toJsonItems : List Toml → List Json
  | [] => []
  | t :: ts => t.toJson :: toJsonItems ts

/-- The JSON members of a table. -/
def toJsonMembers : List (Key × Toml) → List (String × Json)
  | [] => []
  | (key, t) :: ms => (key.name, t.toJson) :: toJsonMembers ms

end

/-- An outcome whose complaint is about the stretch `span`. -/
def marking {α : Type} (span : Span) : Except Complaint α → Except Fault α
  | .ok a => .ok a
  | .error complaint => .error ⟨complaint, span⟩

/-- A failure because the value is of another kind than `expected`. -/
def unexpected {α : Type} (t : Toml) (expected : String) : Except Fault α :=
  .error ⟨.wrongKind t.found expected, t.span⟩

/-- A value that says nothing, as it stands for a choice in a table. -/
def readNothing : Toml → Except Fault Unit
  | .table _ _ [] => .ok ()
  | .array _ _ [] => .ok ()
  | .table span _ _ => .error ⟨.emptyTableDue, span⟩
  | .array span _ _ => .error ⟨.emptyArrayDue, span⟩
  | t => .error ⟨.tableDue t.kindName, t.span⟩

/-- All of `items` read by `decode`. -/
def readAll {α : Type} (decode : Toml → Except Fault α) : List Toml → Except Fault (List α)
  | [] => .ok []
  | t :: rest => do
    let a ← decode t
    let as ← readAll decode rest
    return a :: as

/-- Goes through the members of a table; `member` is given what has been gathered, a name and its
value. -/
def foldMembers {σ : Type} (member : σ → Key → Toml → Except Fault σ) :
    σ → Members → Except Fault σ
  | gathered, [] => .ok gathered
  | gathered, (key, t) :: rest => do
    foldMembers member (← member gathered key t) rest

end Toml

/-- Reads a choice from a text or from a table with one member. -/
def Choice.ofToml {α : Type} (c : Choice α) : Toml → Except Toml.Fault α
  | .scalar span (.text s) => Toml.marking span (c.read s)
  | .table _ _ [(key, t)] => do
    let a ← Toml.marking key.span (c.read key.name)
    t.readNothing
    return a
  | .table span _ members => .error ⟨.singleEntryDue members.length, span⟩
  | t => .error ⟨.choiceDue, t.span⟩

mutual

/-- Reads a value of the described type. -/
def Schema.ofToml : {α : Type} → Schema α → Toml → Except Toml.Fault α
  | _, .text, t =>
    match t with
    | .scalar _ (.text s) => .ok s
    | t => t.unexpected "a string"
  | _, .path, t =>
    match t with
    | .scalar _ (.text s) => .ok (Path.ofString s)
    | t => t.unexpected "path string"
  | _, .flag, t =>
    match t with
    | .scalar _ (.bool b) => .ok b
    | t => t.unexpected "a boolean"
  | _, .count, t =>
    match t with
    | .scalar span (.integer n) => Toml.marking span (Schema.readCount n)
    | t => t.unexpected "u64"
  | _, .code, t =>
    match t with
    | .scalar span (.integer n) => Toml.marking span (Schema.readCode n)
    | t => t.unexpected "i64"
  | _, .any, t => .ok t.toJson
  | _, .optional s, t => (s.ofToml t).map some
  | _, .list s, t =>
    match t with
    | .array _ _ items => Toml.readAll s.ofToml items
    | t => t.unexpected "a sequence"
  | _, .choice c, t => c.ofToml t
  | _, .record name fields ofFields _, t =>
    match t with
    | .array span _ items => do
      return ofFields (← fields.ofTomlItems span name fields.size 0 items)
    | .table span _ members => do
      let slots ← Toml.foldMembers fields.ofTomlMember fields.empty members
      return ofFields (← Toml.marking span (fields.gather slots))
    | .scalar span (.moment _) => do
      return ofFields (← Toml.marking span (fields.gather fields.empty))
    | t => t.unexpected ("struct " ++ name)

/-- Reads the fields of the record `record`, which has `total` of them, from the items of an array
that takes the stretch `span`; `index` of them have been read. -/
def Fields.ofTomlItems (span : Toml.Span) (record : String) (total : Nat) : {σ β : Type} →
    Fields σ β → (index : Nat) → List Toml → Except Toml.Fault β
  | _, _, .nil, _, _ => .ok ()
  | _, _, .cons _ presence s rest, index, items =>
    match items with
    | t :: items => do
      let a ← s.ofToml t
      return (a, ← rest.ofTomlItems span record total (index + 1) items)
    | [] =>
      match presence.value? with
      | some a => do return (a, ← rest.ofTomlItems span record total (index + 1) [])
      | none => .error ⟨.wrongLength index (Fields.expectedLength record total), span⟩

/-- Reads one member of a table into its slot. -/
def Fields.ofTomlMember : {σ β : Type} → Fields σ β → σ → Toml.Key → Toml → Except Toml.Fault σ
  | _, _, .nil, slots, _, _ => .ok slots
  | _, _, .cons name _ s rest, (slot, slots), key, t =>
    if key.name = name then
      match slot with
      | some _ => .error ⟨.duplicateField name, key.span⟩
      | none => do return (some (← s.ofToml t), slots)
    else do return (slot, ← rest.ofTomlMember slots key t)

end

end ToolRelay
