import ToolRelay.Path.Basic

/-!
# Arguments of the program

What the words after the name of the program ask for.  Words are read from left to right; the first
one that fits nothing, or that asks for help, decides.  Options may stand together with a command
or before it; what follows `--` is for the tool.  Only a file may have a name that is no text.

* `Cli.read` reads the words.
-/

namespace ToolRelay

namespace Cli

/-- A command. -/
inductive Command where
  /-- Serve an editor, through a socket or on the standard streams. -/
  | server (socket : Option Nat)
  /-- Serve another program of this kind. -/
  | runner
  /-- Run the tool without a document. -/
  | run (args : List String)
  /-- Run the tool on a file. -/
  | check (file : Path) (useStdin : Bool) (args : List String)
  /-- Tell the version. -/
  | version
  deriving DecidableEq, Repr

/-- What the arguments ask for. -/
structure Arguments where
  /-- The configuration file. -/
  config : Option String
  /-- Whether everything is to be logged. -/
  verbose : Bool
  /-- The command. -/
  command : Command
  deriving DecidableEq, Repr

/-- Why there is nothing to carry out. -/
inductive Stop where
  /-- Help was asked for. -/
  | help
  /-- The version was asked for by an option. -/
  | version
  /-- The arguments cannot be understood. -/
  | misuse
  deriving DecidableEq, Repr

/-! ### Words and options -/

/-- What an option means. -/
inductive Meaning where
  /-- Names the configuration file. -/
  | config
  /-- Logs everything. -/
  | verbose
  /-- Names a socket. -/
  | socket
  /-- Sends the text instead of the path. -/
  | stdin
  /-- Asks for help. -/
  | help
  /-- Asks for the version. -/
  | version
  deriving DecidableEq, Repr

/-- Whether an option has a value. -/
def Meaning.hasValue : Meaning → Bool
  | .config | .socket => true
  | .verbose | .stdin | .help | .version => false

/-- What can stand at a place in the arguments. -/
structure Level where
  /-- The long options. -/
  long : List (String × Meaning)
  /-- The short options. -/
  short : List (Char × Meaning)
  /-- Whether a command stands here. -/
  hasCommand : Bool
  /-- Whether a file stands here. -/
  hasFile : Bool
  /-- Whether arguments for the tool follow. -/
  hasRest : Bool
  deriving Repr

/-- The long options that can stand everywhere. -/
def commonLong : List (String × Meaning) :=
  [("config", .config), ("verbose", .verbose), ("help", .help)]

/-- The short options that can stand everywhere. -/
def commonShort : List (Char × Meaning) := [('c', .config), ('v', .verbose), ('h', .help)]

/-- Before the command. -/
def outerLevel : Level :=
  ⟨("version", .version) :: commonLong, ('V', .version) :: commonShort, true, false, false⟩

/-- After a command without options of its own. -/
def plainLevel : Level := ⟨commonLong, commonShort, false, false, false⟩

/-- After `server`. -/
def serverLevel : Level := { plainLevel with long := ("port", .socket) :: commonLong }

/-- After `run`. -/
def runLevel : Level := { plainLevel with hasRest := true }

/-- After `check`. -/
def checkLevel : Level :=
  { plainLevel with long := ("stdin", .stdin) :: commonLong, hasFile := true, hasRest := true }

/-- What has been read at a level. -/
structure Found where
  /-- The configuration file. -/
  config : Option String
  /-- Whether everything is to be logged. -/
  verbose : Bool
  /-- The socket. -/
  socket : Option Nat
  /-- Whether the text is sent instead of the path. -/
  stdin : Bool
  /-- The file. -/
  file : Option Path
  /-- The arguments for the tool. -/
  rest : List String
  deriving Repr

/-- Nothing read yet. -/
def Found.nothing : Found := ⟨none, false, none, false, none, []⟩

/-- The socket that a text names. -/
def socket? (text : String) : Option Nat :=
  let digits := match text.toList with
    | '+' :: rest => rest
    | cs => cs
  if digits.isEmpty || digits.any (!·.isDigit) then none
  else
    let n := digits.foldl (fun n c => n * 10 + (c.toNat - 0x30)) 0
    if n < 65536 then some n else none

/-- Takes an option; none may come twice. -/
def Found.take (f : Found) (m : Meaning) (value : String) : Except Stop Found :=
  match m with
  | .config => if f.config.isSome then .error .misuse else .ok { f with config := some value }
  | .verbose => if f.verbose then .error .misuse else .ok { f with verbose := true }
  | .socket =>
    match f.socket, socket? value with
    | none, some n => .ok { f with socket := some n }
    | _, _ => .error .misuse
  | .stdin => if f.stdin then .error .misuse else .ok { f with stdin := true }
  | .help => .error .help
  | .version => .error .version

/-- The characters after the first one that fulfils `p`, and those before it. -/
def cutAt? (p : Char → Bool) : List Char → Option (List Char × List Char)
  | [] => none
  | c :: rest =>
    if p c then some ([], rest) else (cutAt? p rest).map fun (before, after) => (c :: before, after)

/-- Takes a long option, which is given without its two dashes.  An option that still needs its
value is given back. -/
def Found.takeLong (f : Found) (level : Level) (word : List Char) :
    Except Stop (Found × Option Meaning) :=
  let (name, value) := match cutAt? (· == '=') word with
    | some (name, value) => (name, some (String.ofList value))
    | none => (word, none)
  match (level.long.find? (·.1.toList == name)).map (·.2), value with
  | none, _ => .error .misuse
  | some m, some value =>
    if m.hasValue then (f.take m value).map (·, none) else .error .misuse
  | some m, none =>
    if m.hasValue then .ok (f, some m) else (f.take m "").map (·, none)

/-- Takes short options that stand together.  An option that still needs its value is given
back. -/
def Found.takeShort (f : Found) (level : Level) : List Char → Except Stop (Found × Option Meaning)
  | [] => .ok (f, none)
  | c :: rest =>
    match (level.short.find? (·.1 == c)).map (·.2) with
    | none => .error .misuse
    | some m =>
      if m.hasValue then
        match rest with
        | [] => .ok (f, some m)
        | '=' :: value => (f.take m (String.ofList value)).map (·, none)
        | value => (f.take m (String.ofList value)).map (·, none)
      else
        match f.take m "" with
        | .ok f => f.takeShort level rest
        | .error stop => .error stop

/-- Whether a word has the look of an option. -/
def looksLikeOption : Bytes → Bool
  | 0x2D :: _ :: _ => true
  | _ => false

/-- Takes a word that is neither an option nor a command: the name of the file. -/
def Found.takeWord (f : Found) (level : Level) (word : Bytes) : Except Stop Found :=
  if level.hasFile && f.file.isNone && !word.isEmpty then .ok { f with file := some ⟨word⟩ }
  else .error .misuse

/-- Words as texts; a word that is no text is a misuse. -/
def textsOf (words : List Bytes) : Except Stop (List String) :=
  match words.mapM Utf8.decode? with
  | some texts => .ok texts
  | none => .error .misuse

/-- Takes the value of an option. -/
def Found.takeValue (f : Found) (m : Meaning) (value : Bytes) : Except Stop Found :=
  match Utf8.decode? value with
  | some text => if looksLikeOption value then .error .misuse else f.take m text
  | none => .error .misuse

/-- Takes a word where no option waits for its value; also gives the option that waits after it. -/
def Found.takeAny (f : Found) (level : Level) (word : Bytes) :
    Except Stop (Found × Option Meaning) :=
  if looksLikeOption word then
    match (Utf8.decode? word).map String.toList with
    | some ('-' :: '-' :: name) => f.takeLong level name
    | some (_ :: letters) => f.takeShort level letters
    | _ => .error .misuse
  else (f.takeWord level word).map (·, none)

/-- Two dashes, after which nothing is an option. -/
def twoDashes : Bytes := [0x2D, 0x2D]

/-- Reads the words of a level, where `pending` is an option that waits for its value.  The word of
a command ends a level that has one and is given back with the words after it. -/
def readLevel (level : Level) (f : Found) (pending : Option Meaning) :
    List Bytes → Except Stop (Found × List Bytes)
  | [] => if pending.isSome then .error .misuse else .ok (f, [])
  | word :: rest =>
    match pending with
    | some m =>
      match f.takeValue m word with
      | .ok f => readLevel level f none rest
      | .error stop => .error stop
    | none =>
      if word = twoDashes then
        if level.hasRest then (textsOf rest).map fun texts => ({ f with rest := texts }, [])
        else if rest.isEmpty then .ok (f, []) else .error .misuse
      else if level.hasCommand && !looksLikeOption word then .ok (f, word :: rest)
      else
        match f.takeAny level word with
        | .ok (f, pending) => readLevel level f pending rest
        | .error stop => .error stop

/-! ### The arguments as a whole -/

/-- The commands by their names, with what can stand after them. -/
def levels : List (String × Level) :=
  [("server", serverLevel), ("runner", plainLevel), ("run", runLevel), ("check", checkLevel),
    ("version", plainLevel)]

/-- The command with a name, from what has been read after it. -/
def Found.command? (f : Found) (name : String) : Option Command :=
  match name with
  | "server" => some (.server f.socket)
  | "runner" => some .runner
  | "run" => some (.run f.rest)
  | "check" => f.file.map (.check · f.stdin f.rest)
  | "version" => some .version
  | _ => none

/-- What follows the word `help`: nothing, or the name of a command. -/
def readHelp : List String → Stop
  | [] => .help
  | [name] => if name = "help" || levels.any (·.1 == name) then .help else .misuse
  | _ => .misuse

/-- Reads the arguments.  Of an option that stands before the command and after it, the latter
counts. -/
def read (words : List Bytes) : Except Stop Arguments := do
  let (outer, rest) ← readLevel outerLevel .nothing none words
  match rest with
  | [] => throw .misuse
  | word :: rest =>
    match Utf8.decode? word with
    | none => throw .misuse
    | some name =>
      if name = "help" then throw (readHelp (rest.map Utf8.lossy))
      match levels.find? (·.1 == name) with
      | none => throw .misuse
      | some (_, level) =>
        let (inner, _) ← readLevel level .nothing none rest
        match inner.command? name with
        | none => throw .misuse
        | some command =>
          return ⟨inner.config <|> outer.config, inner.verbose || outer.verbose, command⟩

end Cli

end ToolRelay
