import ToolRelay.Schema.Basic

/-!
# Writing values by their schema

`Schema.encode` gives the JSON value of a value.  The only thing that cannot be written is a path
that is not UTF-8.
-/

namespace ToolRelay

/-- A path that is not UTF-8 cannot be written. -/
inductive Unwritable where
  /-- The path is not UTF-8. -/
  | pathNotUtf8
  deriving DecidableEq, Repr

/-- The reason in words. -/
def Unwritable.message : Unwritable → String
  | .pathNotUtf8 => "path contains invalid UTF-8 characters"

mutual

/-- The JSON value of a value. -/
def Schema.encode : {α : Type} → Schema α → α → Except Unwritable Json
  | _, .text, s => .ok (.text s)
  | _, .path, p =>
    match p.toString? with
    | some s => .ok (.text s)
    | none => .error .pathNotUtf8
  | _, .flag, b => .ok (.bool b)
  | _, .count, n => .ok (.int n)
  | _, .code, n => .ok (.int n)
  | _, .any, j => .ok j
  | _, .optional s, a =>
    match a with
    | none => .ok .null
    | some a => s.encode a
  | _, .list s, as => (as.mapM s.encode).map .array
  | _, .choice c, a => .ok (.text (c.name a))
  | _, .record _ fields _ toFields, a => (fields.encode (toFields a)).map .object

/-- The members that the fields of a record are written as. -/
def Fields.encode : {σ β : Type} → Fields σ β → β → Except Unwritable (List (String × Json))
  | _, _, .nil, _ => .ok []
  | _, _, .cons name presence s rest, (a, b) => do
    let value ← s.encode a
    let others ← rest.encode b
    match presence, value with
    | .orOmitted _, .null => return others
    | _, _ => return (name, value) :: others

end

end ToolRelay
