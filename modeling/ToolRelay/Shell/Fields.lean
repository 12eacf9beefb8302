import ToolRelay.Host.Tree
import ToolRelay.Shell.Wildcard

/-!
# Fields

Words become fields: the values of expansions without quotes are cut at separators, and a field
with wildcards becomes the names of the files that it matches.  Every octet of a field is marked
with whether it may have a meaning of its own there.
-/

namespace ToolRelay

namespace Shell

/-- The separators that a shell begins with. -/
def commonSeparators : Octets := [' ', '\t', '\n']

/-- Whether a separator is a blank; several of those separate like one. -/
def isBlankSeparator (c : Char) : Bool := commonSeparators.contains c

/-- Octets without the line feeds at their end. -/
def dropLineEnds (cs : Octets) : Octets := (cs.reverse.dropWhile (· == '\n')).reverse

/-- The fields of a word while it is expanded. -/
structure Fields where
  /-- The finished fields, last first. -/
  done : List Wildcard.Marked
  /-- The octets of the field that is not finished, last first, if there is one. -/
  current : Option Wildcard.Marked
  /-- Whether a blank has ended the last field, so that another separator next to it ends none. -/
  afterBlank : Bool

namespace Fields

/-- No field yet. -/
def start : Fields := ⟨[], none, false⟩

/-- Adds octets to the current field. -/
def add (f : Fields) (cs : Wildcard.Marked) : Fields :=
  ⟨f.done, some (cs.foldl (fun acc c => c :: acc) (f.current.getD [])), false⟩

/-- Ends the current field. -/
def cut (f : Fields) : Fields :=
  match f.current with
  | some cs => ⟨cs.reverse :: f.done, none, false⟩
  | none => f

/-- Adds an octet that may separate fields. -/
def addOctet (separators : Octets) (f : Fields) (c : Char) : Fields :=
  if !separators.contains c then f.add [(c, true)]
  else if isBlankSeparator c then
    if f.current.isSome then { f.cut with afterBlank := true } else f
  else if f.current.isSome then f.cut
  else if f.afterBlank then { f with afterBlank := false }
  else { f with done := [] :: f.done }

/-- Adds the value of an expansion without quotes, which separators cut into fields. -/
def addSplit (separators : Octets) (f : Fields) (cs : Octets) : Fields :=
  cs.foldl (addOctet separators) f

/-- Adds values that become fields of their own, by means of a way to add one. -/
def addAll (add : Fields → Octets → Fields) (f : Fields) : List Octets → Fields
  | [] => f
  | [cs] => add f cs
  | cs :: rest => addAll add (add f cs).cut rest

/-- The fields. -/
def toList (f : Fields) : List Wildcard.Marked := f.cut.done.reverse

end Fields

/-! ### Names of files -/

/-- Whether a pattern has any wildcards. -/
def hasWildcards (cs : Wildcard.Marked) : Bool :=
  cs.any fun (c, isActive) => isActive && "*?[".toList.contains c

/-- The parts of a pattern between separators. -/
def components (cs : Wildcard.Marked) : List Wildcard.Marked :=
  let (piece, rest) := cs.foldr
    (fun c (piece, rest) => if c.1 = '/' then ([], piece :: rest) else (c :: piece, rest))
    (([] : Wildcard.Marked), ([] : List Wildcard.Marked))
  piece :: rest

/-- The names in a directory that a pattern matches, in order; hidden ones only if the pattern
begins with a point. -/
def matchingNames (tree : FileTree) (dir : List Bytes) (pattern : Wildcard.Marked) :
    List Octets :=
  let parts := Wildcard.ofMarked pattern
  let wantsHidden := (pattern.head?.map (·.1)) == some '.'
  let names := ((tree.children dir).map ofBytes).filter fun name =>
    (wantsHidden || name.head? != some '.') && Wildcard.matchesAll parts name
  names.mergeSort fun a b => !decide (b < a)

/-- The paths that a pattern matches after `start`, seen from the directory `dir`. -/
def matchingPaths (tree : FileTree) (dir : List Bytes) : (start : Octets) →
    List Wildcard.Marked → List Octets
  | start, [] => [start]
  | start, part :: rest =>
    let here := if start.isEmpty then ['.'] else start
    let names := match tree.lookup dir ⟨toBytes here⟩ with
      | .ok (name, .directory) =>
        if hasWildcards part then matchingNames tree name part else [part.map Prod.fst]
      | _ => []
    names.flatMap fun name =>
      let path := start ++ name
      if rest.isEmpty then
        if (tree.lookup dir ⟨toBytes path⟩).isOk then [path] else []
      else matchingPaths tree dir (path ++ ['/']) rest

/-- What a field stands for: the paths that it matches, or itself if there are none. -/
def pathsOf (tree : FileTree) (dir : List Bytes) (field : Wildcard.Marked) : List Octets :=
  if hasWildcards field then
    match matchingPaths tree dir [] (components field) with
    | [] => [field.map Prod.fst]
    | paths => paths
  else [field.map Prod.fst]

end Shell

end ToolRelay
