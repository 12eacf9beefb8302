import ToolRelay.Text.Utf8

/-!
# Paths and their components

A path is the octets by which it was written.  Reading it cuts it at the separator: empty pieces
and `.` say nothing, except that a relative path may begin with `.`.

* `Path.components` reads a path, `Path.ofComponents` writes one.
* `Path.join`, `Path.parent?`, `Path.ancestors` are the usual operations on the written form.
* `Path.stripRoot?` gives what is left of a path below another one, as it was written.
-/

namespace ToolRelay

/-- A path as it was written. -/
structure Path where
  /-- The octets of the written form. -/
  bytes : Bytes
  deriving DecidableEq, Repr, Inhabited

/-- A part of a path that says something. -/
inductive Component where
  /-- The separator a path begins with. -/
  | root
  /-- A `.` at the beginning of a relative path. -/
  | here
  /-- The parent directory, `..`. -/
  | up
  /-- A name. -/
  | name (bytes : Bytes)
  deriving DecidableEq, Repr

namespace Path

/-- The octet between components, `/`. -/
def separator : UInt8 := 0x2F

/-- The octet `.`. -/
def dot : UInt8 := 0x2E

/-- The path that a text spells. -/
def ofString (s : String) : Path := ⟨Utf8.encode s⟩

/-- The path as text, each flaw replaced by U+FFFD. -/
def display (p : Path) : String := Utf8.lossy p.bytes

/-- The path as text, if it is well-formed UTF-8. -/
def toString? (p : Path) : Option String := Utf8.decode? p.bytes

/-- Whether the path begins with the separator. -/
def isAbsolute (p : Path) : Bool := p.bytes.head? == some separator

/-! ### Reading -/

/-- The pieces of a byte sequence between separators; one more than there are separators. -/
def pieces (bs : Bytes) : List Bytes :=
  let (piece, rest) := bs.foldr
    (fun b (piece, rest) => if b = separator then ([], piece :: rest) else (b :: piece, rest))
    ([], [])
  piece :: rest

/-- Whether a piece between separators says nothing. -/
def isIdle (piece : Bytes) : Bool := piece == [] || piece == [dot]

/-- The component that a piece between separators spells. -/
def componentOf (piece : Bytes) : Component :=
  if piece = [dot, dot] then .up else .name piece

/-- The components that the pieces after the beginning spell. -/
def bodyOf (ps : List Bytes) : List Component := (ps.filter (!isIdle ·)).map componentOf

/-- The components of a path. -/
def components (p : Path) : List Component :=
  match pieces p.bytes with
  | [] => []
  | first :: rest =>
    if p.isAbsolute then .root :: bodyOf rest
    else if first = [dot] then .here :: bodyOf rest
    else bodyOf (first :: rest)

/-- Whether two paths have the same components. -/
def agrees (p q : Path) : Bool := p.components == q.components

/-! ### Writing -/

/-- The octets that spell a component. -/
def spell : Component → Bytes
  | .root => [separator]
  | .here => [dot]
  | .up => [dot, dot]
  | .name bs => bs

/-- The written form with a separator at its end, unless it is empty or has one there. -/
def endSeparated (bs : Bytes) : Bytes :=
  if bs = [] ∨ bs.getLast? = some separator then bs else bs ++ [separator]

/-- The path with the given components, one separator between neighbours. -/
def ofComponents : List Component → Path
  | [] => ⟨[]⟩
  | .root :: cs => ⟨separator :: List.intercalate [separator] (cs.map spell)⟩
  | cs => ⟨List.intercalate [separator] (cs.map spell)⟩

/-- `q` seen from `p`: `q` itself if it is absolute, else written after `p`. -/
def join (p q : Path) : Path :=
  if q.isAbsolute then q else ⟨endSeparated p.bytes ++ q.bytes⟩

/-! ### What is above and below a path -/

/-- Drops idle pieces from both ends. -/
def trimIdle (ps : List Bytes) : List Bytes :=
  ((ps.dropWhile isIdle).reverse.dropWhile isIdle).reverse

/-- Drops the first `n` pieces that are not idle, and the idle ones before them. -/
def dropBusy : Nat → List Bytes → List Bytes
  | 0, ps => ps
  | n + 1, ps => dropBusy n (ps.dropWhile isIdle).tail

/-- The written form of pieces. -/
def ofPieces (ps : List Bytes) : Path := ⟨List.intercalate [separator] ps⟩

/-- The path with idle pieces at its end dropped; a beginning of `/` or `.` stays. -/
def trimEnd (p : Path) : Path :=
  match pieces p.bytes with
  | [] => p
  | first :: rest =>
    let kept := (rest.reverse.dropWhile isIdle).reverse
    if p.isAbsolute ∧ kept = [] then ⟨[separator]⟩ else ofPieces (first :: kept)

/-- What is left of `p` below `base`, as it was written in `p`; `none` if the components of
`base` are not the first components of `p`. -/
def below? (p base : Path) : Option Path :=
  let own := p.components
  let above := base.components
  if above.isPrefixOf own then
    match own, above with
    | _, [] => some p.trimEnd
    | [], _ => some p.trimEnd
    | .root :: _, _ :: more =>
      some (ofPieces (trimIdle (dropBusy more.length (pieces p.bytes).tail)))
    | .here :: _, _ :: more =>
      some (ofPieces (trimIdle (dropBusy more.length (pieces p.bytes).tail)))
    | _, above => some (ofPieces (trimIdle (dropBusy above.length (pieces p.bytes))))
  else none

/-- The directory a path lies in, for a path that is written by its components: without its last
component, `none` for the root and for the empty path. -/
def parent? (p : Path) : Option Path :=
  match p.components.getLast? with
  | none => none
  | some .root => none
  | some _ => some (ofComponents p.components.dropLast)

/-- `p` and the directories above it, nearest first, for a path written by its components. -/
def ancestors (p : Path) : List Path :=
  go p.components.length p
where
  /-- At most `n` directories above `p`, after `p`. -/
  go : Nat → Path → List Path
    | 0, p => [p]
    | n + 1, p =>
      match p.parent? with
      | none => [p]
      | some q => p :: go n q

end Path

end ToolRelay
