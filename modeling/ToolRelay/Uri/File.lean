import ToolRelay.Uri.Parse
import ToolRelay.Path.Basic

/-!
# Files and their URIs

* `Uri.toPath?` is the path that a URI names on this computer, `Uri.ofPath` the URI of a path.
* `Path.ofWorkspace?` reads the root of a workspace, which may be given either way.
-/

namespace ToolRelay

namespace Uri

/-- Whether octets end in a drive letter and have something before it. -/
def endsInDrive (bs : Bytes) : Bool :=
  match bs.reverse with
  | d :: c :: _ :: _ => isLetter (Char.ofNat c.toNat) && (d == 0x3A || d == 0x7C)
  | _ => false

/-- The path that a URI names on this computer: its path decoded, if it has slashes and the host is
this computer. -/
def toPath? (u : Uri) : Option Path :=
  if u.isLocal ∧ u.path.head? = some '/' then
    let bs := Percent.decode (u.path.flatMap String.utf8EncodeChar)
    some ⟨if endsInDrive bs then bs ++ [Path.separator] else bs⟩
  else none

/-- The octets of a component, encoded as a segment. -/
def encodeComponent (c : Component) : List Char :=
  (Path.spell c).flatMap (Percent.encodeOctet Percent.inSegment)

/-- The path of the URI of an absolute path with the given components after the root. -/
def encodeComponents (cs : List Component) : List Char :=
  if cs = [] then ['/'] else cs.flatMap fun c => '/' :: encodeComponent c

/-- The URI of an absolute path. -/
def ofPath (p : Path) : Uri :=
  ⟨"file".toList, some ⟨[], none, none⟩, encodeComponents p.components.tail, none, none⟩

/-- The text that names a path: the URI of an absolute path, any other path as it is shown. -/
def nameOf (p : Path) : String := if p.isAbsolute then (ofPath p).spell else p.display

end Uri

/-- The root of a workspace, named by the URI of a file or as a path; a URI of another scheme is no
root.  A single letter before a colon is a drive, not a scheme. -/
def Path.ofWorkspace? (s : String) : Option Path :=
  match Uri.parse s with
  | .ok u =>
    if u.scheme = "file".toList then u.toPath?
    else if u.scheme.length > 1 then none
    else some (Path.ofString s)
  | .error _ => some (Path.ofString s)

end ToolRelay
