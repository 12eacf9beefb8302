import ToolRelay.Cli.Program
import ToolRelay.Host.Tree

/-!
# The executable

Reads files and streams, hands them to the library and writes what comes out.  The library sees the
system as it was found when the words of the arguments, of the configuration and of each message
were looked up as paths.  Child processes are refused.
-/

namespace ToolRelay

namespace Executable

/-! ### The system as the library sees it -/

/-- What a path of the system leads to, if it leads anywhere. -/
def look (path : String) : IO (Option Node) := do
  try
    let content ← IO.FS.readBinFile path
    return some (.file content.toList false)
  catch
    | .inappropriateType .. => return some .directory
    | _ => return none

/-- The tree with what some paths lead to, which are seen from `dir`. -/
def lookAll (dir : Path) (tree : FileTree) (paths : List Path) : IO FileTree :=
  paths.foldlM (fun tree path => do
    let full := (dir.join path).normalize
    match full.toString? with
    | none => return tree
    | some name =>
      if name.toList.contains '\x00' then return tree
      else
        match ← look name with
        | none => return tree
        | some node => return tree.insert (FileTree.nameOf full) node) tree

/-- The host with a tree, which starts nothing. -/
def hostWith (dir : Path) (tree : FileTree) : Host :=
  (Place.mk tree (FileTree.nameOf dir)).host fun _ => .error .notPermitted

/-- The texts in a value. -/
partial def textsIn : Json → List String
  | .text s => [s]
  | .array items => items.flatMap textsIn
  | .object members => members.flatMap fun (_, v) => textsIn v
  | _ => []

/-- The paths that a text may stand for. -/
def pathsIn (dirs : List Path) (text : String) : List Path :=
  (Path.ofWorkspace? text).toList ++ dirs.map (·.join (Path.ofString text))

/-- The paths that a message may speak of. -/
def pathsOf (content : Bytes) : List Path :=
  match Json.parse (Utf8.lossy content) with
  | .error _ => []
  | .ok j =>
    let texts := textsIn j
    let dirs := texts.filterMap fun t => (Path.ofWorkspace? t).filter (·.isAbsolute)
    texts.flatMap (pathsIn (Path.ofString "." :: dirs))

/-- The paths that a configuration speaks of. -/
def pathsOfConfig (c : FileConfig) : List Path :=
  c.tool.bundledPath.toList ++
    (c.tool.args ++ c.tool.stdinArgs ++ c.global.args.getD []).map Path.ofString

/-- The variables that the program looks at. -/
def variableNames : List String :=
  [ImportStrategy.key, NotificationLevel.key, Environment.pathKey, "CLICOLOR_FORCE", "NO_COLOR",
    "CLICOLOR"]

/-! ### Streams -/

/-- Writes octets. -/
def put (stream : IO.FS.Stream) (bytes : Bytes) : IO Unit := do
  stream.write ⟨bytes.toArray⟩
  stream.flush

/-- Reads up to the end of a line; nothing at the end of the input. -/
partial def readLine (stream : IO.FS.Stream) (done : Bytes) : IO Bytes := do
  let next ← stream.read 1
  match next.toList with
  | [b] => if b = 0x0A then return (b :: done).reverse else readLine stream (b :: done)
  | _ => return done.reverse

/-- Reads `n` octets, or all that there are. -/
partial def readMany (stream : IO.FS.Stream) (n : Nat) (done : Bytes) : IO Bytes := do
  if n = 0 then return done
  let next := (← stream.read n.toUSize).toList
  if next.isEmpty then return done
  else readMany stream (n - next.length) (done ++ next)

/-- Reads up to the end of a header; nothing at the end of the input. -/
partial def readHeader (stream : IO.FS.Stream) (done : Bytes) : IO Bytes := do
  let line ← readLine stream []
  if line.isEmpty then return []
  else if line = [0x0D, 0x0A] then return done ++ line
  else readHeader stream (done ++ line)

/-! ### Commands -/

/-- Where the program runs, after some paths have been looked up in addition. -/
def surroundings (base : Cli.Surroundings) (dir : Path) (tree : FileTree) (paths : List Path) :
    IO Cli.Surroundings := do
  return { base with host := hostWith dir (← lookAll dir tree paths) }

/-- Answers the lines of another program of this kind. -/
partial def serveLines (see : List Path → IO Cli.Surroundings) (setup : Setup) : IO UInt32 := do
  let line ← readLine (← IO.getStdin) []
  if line.isEmpty then return 0
  let s ← see (pathsOf line)
  match (Runner.respond ⟨.builtins s.host, setup.searchPath⟩ line).value.1 with
  | .stop => return 0
  | .silent => serveLines see setup
  | .response r => do
    put (← IO.getStdout) (Utf8.encode (String.join (Runner.responseLine r)))
    serveLines see setup

/-- The server with modules that see the given system. -/
def refreshed (host : Host) (server : Server) : Server :=
  let session := server.session
  let modules : InProcess := ⟨.builtins host, session.setup.searchPath⟩
  { server with session := { session with dispatcher := { session.dispatcher with modules } } }

/-- Answers the frames of an editor. -/
partial def serveFrames (see : List Path → IO Cli.Surroundings) (server : Server) :
    IO UInt32 := do
  let stdin ← IO.getStdin
  let header ← readHeader stdin []
  if header.isEmpty then return 0
  let content ← match Frame.lengthIn? header with
    | none => pure none
    | some n => do pure (some (← readMany stdin n []))
  if server.phase = .done then return 0
  let s ← see ((content.map pathsOf).getD [])
  let t := (refreshed s.host server).receive s.host content
  put (← IO.getStdout) ((Server.outgoing t).flatMap fun j => Frame.encode j.compact)
  serveFrames see t.value.2

/-- Runs the program with the words after its name. -/
def run (words : List Bytes) : IO UInt32 := do
  let dir := Path.ofString (toString (← IO.currentDir))
  let found ← variableNames.filterMapM fun name => do
    return (← IO.getEnv name).map fun value => (name, value)
  let first ← lookAll dir FileTree.empty
    (Path.ofString "." :: FileConfig.standardFile :: words.map Path.mk)
  let base : Cli.Surroundings :=
    { host := hostWith dir first
      look := fun name => found.lookup name
      runtime := Path.ofString (toString (← IO.appPath))
      isTerminal := ← (← IO.getStdout).isTty }
  let config := match Cli.read words with
    | .ok a => a.config.map Path.ofString
    | .error _ => none
  let more := match FileConfig.load base.host config with
    | .ok c => pathsOfConfig c
    | .error _ => []
  let tree ← lookAll dir first more
  let see := surroundings base dir tree
  let s ← see []
  let finish (behaviour : Behaviour) : IO UInt32 := do
    let r := behaviour [] true
    put (← IO.getStdout) r.output
    put (← IO.getStderr) r.errors
    return (r.exit.getD 0).toUInt32
  match Cli.read words with
  | .ok ⟨config, _, .runner⟩ =>
    match Cli.load s config with
    | .ok setup => serveLines see setup
    | .error _ => finish (Cli.behaviour s words)
  | .ok ⟨config, _, .server none⟩ =>
    match Cli.load s config with
    | .ok setup => serveFrames see (Server.start s.host setup).value
    | .error _ => finish (Cli.behaviour s words)
  | _ => finish (Cli.behaviour s words)

end Executable

end ToolRelay

/-- Runs the program. -/
def main (words : List String) : IO UInt32 :=
  ToolRelay.Executable.run (words.map ToolRelay.Utf8.encode)
