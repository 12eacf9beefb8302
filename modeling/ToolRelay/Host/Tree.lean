import ToolRelay.Host.Basic

/-!
# File trees

A file tree in memory: directories, files and programs under absolute names.  Looking up a path
follows it component by component, so what comes before a component must be a directory.
-/

namespace ToolRelay

/-- What a name in a tree stands for. -/
inductive Node where
  /-- A directory. -/
  | directory
  /-- A file with its content; whether it may be executed. -/
  | file (content : Bytes) (executable : Bool)
  /-- A program, by its name. -/
  | program (name : String)
  /-- A device that swallows everything. -/
  | sink
  deriving DecidableEq, Repr

/-- A file tree: the names from the root down, and what they stand for. -/
structure FileTree where
  /-- The entries; of two under one name the first counts. -/
  entries : List (List Bytes × Node)
  deriving Repr

namespace FileTree

/-- A tree with the root only. -/
def empty : FileTree := ⟨[]⟩

/-- What the name stands for. -/
def node? (t : FileTree) (name : List Bytes) : Option Node :=
  if name = [] then some .directory
  else (t.entries.find? (·.1 == name)).map (·.2)

/-- The tree with one more entry and the directories above it. -/
def insert (t : FileTree) (name : List Bytes) (node : Node) : FileTree :=
  let above := (List.range name.length).map fun n => name.take n
  let missing := above.filter fun dir => (t.node? dir).isNone
  ⟨(name, node) :: missing.map (·, .directory) ++ t.entries⟩

/-- The tree with something written after what a file holds. -/
def extend (t : FileTree) (name : List Bytes) (content : Bytes) : FileTree :=
  match t.node? name with
  | some (.file before executable) =>
    ⟨(name, .file (before ++ content) executable) :: t.entries.filter (·.1 != name)⟩
  | _ => t

/-- The tree without an entry. -/
def remove (t : FileTree) (name : List Bytes) : FileTree := ⟨t.entries.filter (·.1 != name)⟩

/-- The names of what is in a directory. -/
def children (t : FileTree) (name : List Bytes) : List Bytes :=
  (t.entries.filterMap fun e => if e.1.dropLast = name then e.1.getLast? else none).eraseDups

/-- The names that a path spells from the root, without looking at the tree. -/
def nameOf (p : Path) : List Bytes :=
  p.normalize.components.filterMap fun
    | .name bs => some bs
    | _ => none

/-- The greatest length of one component. -/
def maxName : Nat := 255

/-- The greatest length of a path. -/
def maxPath : Nat := 4095

/-- Goes down the pieces of a path from `here`. -/
def follow (t : FileTree) (here : List Bytes) : List Bytes → Except Refusal (List Bytes)
  | [] => .ok here
  | piece :: rest =>
    match t.node? here with
    | none => .error .notFound
    | some .directory =>
      if Path.isIdle piece then follow t here rest
      else if piece = [Path.dot, Path.dot] then follow t here.dropLast rest
      else if piece.length > maxName then .error .nameTooLong
      else follow t (here ++ [piece]) rest
    | some _ => .error .notADirectory

/-- The entry that a path leads to from the directory `dir`. -/
def lookup (t : FileTree) (dir : List Bytes) (p : Path) : Except Refusal (List Bytes × Node) := do
  if p.bytes.contains 0 then throw .nulInFileName
  if p.bytes.isEmpty then throw .notFound
  if p.bytes.length > maxPath then throw .nameTooLong
  let name ← t.follow (if p.isAbsolute then [] else dir) (Path.pieces p.bytes)
  match t.node? name with
  | some node => return (name, node)
  | none => throw .notFound

/-- The content of the file that a path leads to. -/
def readFile (t : FileTree) (dir : List Bytes) (p : Path) : Except Refusal Bytes := do
  match ← t.lookup dir p with
  | (_, .file content _) => .ok content
  | (_, .directory) => .error .isADirectory
  | (_, .program _) => .ok []
  | (_, .sink) => .ok []

/-- The kind of what a path leads to. -/
def kind? (t : FileTree) (dir : List Bytes) (p : Path) : Option EntryKind :=
  match t.lookup dir p with
  | .ok (_, .directory) => some .directory
  | .ok (_, .file _ _) => some .file
  | .ok (_, .program _) => some .file
  | .ok (_, .sink) => some .other
  | .error _ => none

/-- The absolute path of a name. -/
def pathOf (name : List Bytes) : Path :=
  Path.ofComponents (.root :: name.map .name)

end FileTree

/-- Where a program stands in a tree. -/
structure Place where
  /-- The tree. -/
  tree : FileTree
  /-- The name of the current directory, which need not exist any more. -/
  dir : List Bytes
  deriving Repr

namespace Place

/-- The current directory, if it still exists. -/
def currentDir (p : Place) : Except Refusal Path :=
  match p.tree.node? p.dir with
  | some .directory => .ok (FileTree.pathOf p.dir)
  | _ => .error .notFound

/-- The host that a program at this place sees, with the given way of starting command lines. -/
def host (p : Place) (start : Command → Except Refusal Process) : Host where
  currentDir := p.currentDir
  readFile := p.tree.readFile p.dir
  kind? := p.tree.kind? p.dir
  start := start

end Place

end ToolRelay
