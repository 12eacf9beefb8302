import ToolRelay.Toml.Basic

/-!
# TOML documents

A document is a list of `Statement`s: headers, and values with the names they go under.
`Members.ofStatements?` puts them together into one table.  A header opens a table that is not
there yet, or one that is only there because something inside it is; a dotted name may add to the
tables that dotted names have introduced; nothing can be added to a table in braces.
-/

namespace ToolRelay

namespace Toml

/-- One line of a document, as far as its meaning goes. -/
inductive Statement where
  /-- The header of a table; whether it is one more table of an array. -/
  | header (span : Span) (ofArray : Bool) (path : List Key)
  /-- A value, and the dotted name that it goes under. -/
  | entry (path : List Key) (value : Toml)

namespace Members

/-- Changes the table at the end of a path by `change`, which is given how that table was
introduced.  The path begins in a table with origin `origin`.  Tables on the way are introduced
where they are missing; `dotted` tells whether the path is that of a dotted name. -/
def within (dotted : Bool) (change : Origin → Members → Option Members) :
    List Key → Origin → Members → Option Members
  | [], origin, ms => change origin ms
  | key :: path, _, ms =>
    let implied := if dotted then Origin.dotted else .above
    match ms.find? key.name with
    | none => do
      let inner ← within dotted change path implied []
      return ms.insert key (.table key.span implied inner)
    | some (.table span origin inner) =>
      if origin = .inline ∨ (dotted = true ∧ origin.isImplied = false) then none
      else do
        let inner ← within dotted change path origin inner
        return ms.replace key.name (.table span origin inner)
    | some (.array span true items) =>
      match items.getLast? with
      | some (.table inside origin inner) => do
        let inner ← within dotted change path origin inner
        return ms.replace key.name
          (.array span true (items.dropLast ++ [.table inside origin inner]))
      | _ => none
    | some _ => none

/-- Puts a value under a dotted name, seen from a table with origin `origin`. -/
def enter (path : List Key) (value : Toml) (origin : Origin) (ms : Members) : Option Members :=
  match path.getLast? with
  | none => none
  | some key =>
    let dotted := 1 < path.length
    within dotted
      (fun origin ms =>
        if (origin == .dotted) == dotted ∧ (ms.find? key.name).isNone then
          some (ms.insert key value)
        else none)
      path.dropLast origin ms

/-- Opens the table that a header names. -/
def openTable (span : Span) (ofArray : Bool) (path : List Key) (ms : Members) : Option Members :=
  match path.getLast? with
  | none => none
  | some key =>
    within false
      (fun _ ms =>
        match ofArray, ms.find? key.name with
        | false, none => some (ms.insert key (.table span .header []))
        | false, some (.table _ .above inner) =>
          some (ms.replace key.name (.table span .header inner))
        | false, some _ => none
        | true, none => some (ms.insert key (.array span true [.table span .header []]))
        | true, some (.array first true items) =>
          some (ms.replace key.name (.array first true (items ++ [.table span .header []])))
        | true, some _ => none)
      path.dropLast .header ms

/-- The table that a document describes: all that `statements` add to `ms`, where `here` is the
path of the last header. -/
def add (here : List Key) (ms : Members) : List Statement → Option Members
  | [] => some ms
  | .header span ofArray path :: statements => do
    add path (← openTable span ofArray path ms) statements
  | .entry path value :: statements => do
    add here (← within false (enter path value) here .header ms) statements

/-- The table that a document describes. -/
def ofStatements? (statements : List Statement) : Option Members := add [] [] statements

end Members

/-- The table in braces that holds the given values under dotted names. -/
def inlineTable? (span : Span) (entries : List (List Key × Toml)) : Option Toml := do
  let ms ← entries.foldlM (fun ms (path, value) => Members.enter path value .inline ms) []
  return .table span .inline ms

end Toml

end ToolRelay
