import ToolRelay.Host.Behaviour
import ToolRelay.Shell.Editor
import ToolRelay.Shell.Format
import ToolRelay.Shell.Machine

/-!
# Programs

What the names in a file tree lead to when they are executed, and the small programs that a
system comes with: `cat`, `sed`, `wc`, `pwd`, `printf`, `echo`, `sleep`, `true`, `false`.
-/

namespace ToolRelay

namespace Shell

/-- How a program that comes from outside behaves with the files of a tree, in a directory, with an
environment and arguments. -/
abbrev Native :=
  (tree : FileTree) → (dir : List Bytes) → (environment : List (String × String)) → (args : List Bytes) → Behaviour

/-- The name under which a tree holds the program from outside. -/
def nativeName : String := "native"

/-- A program, and the arguments that come before all others. -/
structure Executable where
  /-- What it was called by. -/
  calledBy : Octets
  /-- The name of the program. -/
  program : String
  /-- The arguments that come first. -/
  leading : List Octets
  deriving Repr

/-- The interpreter that the first line of a script names, and its argument. -/
def interpreter? (content : Bytes) : Option (Octets × List Octets) :=
  let isBlank (c : Char) : Bool := c == ' ' || c == '\t'
  let line := ((ofBytes content).drop 2).takeWhile (· != '\n')
  let line := (line.dropWhile isBlank).reverse.dropWhile isBlank |>.reverse
  let name := line.takeWhile (!isBlank ·)
  let argument := (line.drop name.length).dropWhile isBlank
  if name.isEmpty then none else some (name, if argument.isEmpty then [] else [argument])

/-- What executing the file at a path means, seen from the directory `dir`; scripts may name each
other as interpreters at most `fuel` times. -/
def executableAt (tree : FileTree) (dir : List Bytes) : (fuel : Nat) → Octets →
    Except Refusal Executable
  | 0, _ => .error .notExecutable
  | fuel + 1, path => do
    match ← tree.lookup dir ⟨toBytes path⟩ with
    | (_, .program name) => return ⟨path, name, []⟩
    | (_, .file content true) =>
      if ofBytes (content.take 2) = ['#', '!'] then
        match interpreter? content with
        | none => throw .notExecutable
        | some (name, argument) =>
          let e ← executableAt tree dir fuel name
          return ⟨name, e.program, e.leading ++ argument ++ [path]⟩
      else throw .notExecutable
    | _ => throw .notPermitted

/-- The directories in which a command without a separator is looked for. -/
def searchDirectories (path : Option Octets) : List Octets :=
  match path with
  | none => [ofString "/bin", ofString "/usr/bin"]
  | some path =>
    let (piece, rest) := path.foldr
      (fun c (piece, rest) => if c = ':' then ([], piece :: rest) else (c :: piece, rest))
      (([] : Octets), ([] : List Octets))
    piece :: rest

/-- What executing a command means, where `path` is the list of directories to look in. -/
def executable (tree : FileTree) (dir : List Bytes) (path : Option Octets) (command : Octets) :
    Except Refusal Executable :=
  if command.contains '/' then executableAt tree dir 5 command
  else if command.isEmpty then .error .notFound
  else if command.length > FileTree.maxName then .error .nameTooLong
  else
    let found := (searchDirectories path).findSome? fun d =>
      match executableAt tree dir 5 (d ++ '/' :: command) with
      | .ok e => some e
      | .error _ => none
    match found with
    | some e => .ok { e with calledBy := command }
    | none => .error .notFound

/-- The current directory as octets. -/
def dirText (dir : List Bytes) : Octets := ofBytes (FileTree.pathOf dir).bytes

namespace Run

/-! ### Small programs -/

/-- Why a file cannot be read, in words. -/
def refusalText : Refusal → String
  | .isADirectory => "Is a directory"
  | .notADirectory => "Not a directory"
  | .nameTooLong => "File name too long"
  | _ => "No such file or directory"

/-- The content of a file, or why it cannot be read. -/
def fileContent (name : Octets) : Run (Except Refusal Octets) := do
  return ((← files).readFile (← shell).dir ⟨toBytes name⟩).map ofBytes

/-- Copies its input and the named files. -/
def cat (own : String) : List Octets → Run Nat
  | [] => do
    copyInput 0 ((← eventRoom) + 1)
    return 0
  | args =>
    args.foldlM
      (fun status arg => do
        if arg = ['-'] then
          copyInput 0 ((← eventRoom) + 1)
          return status
        else
          match ← fileContent arg with
          | .ok content =>
            write 1 content
            return status
          | .error refusal =>
            complain s!"{own}: {toText arg}: {refusalText refusal}"
            return 1) 0

/-- Something that a program reads. -/
structure Input where
  /-- The name of the file, or nothing for standard input. -/
  name : Option Octets
  /-- What it holds. -/
  content : Octets
  /-- Whether it is a file that could be read. -/
  isFile : Bool

/-- The named files, or standard input if none is named, with `complaint` about those that cannot be
read; a directory counts as empty.  Also whether there was no complaint. -/
def inputs (complaint : Octets → Refusal → String) (names : List Octets) :
    Run (List Input × Bool) := do
  if names.isEmpty then return ([⟨none, ← readAll 0, false⟩], true)
  else
    let found ← names.mapM fun name => do
      if name = ['-'] then return (some (Input.mk (some name) (← readAll 0) false), true)
      else
        match ← fileContent name with
        | .ok content => return (some ⟨some name, content, true⟩, true)
        | .error refusal =>
          complain (complaint name refusal)
          let shown := if refusal = .isADirectory then some ⟨some name, [], false⟩ else none
          return (shown, false)
    return (found.filterMap Prod.fst, found.all Prod.snd)

/-- The arguments of `sed`: the parts of its script, whether lines are printed by commands alone,
and the names of files. -/
def sedArguments : List Octets → (scripts : List Octets) → (isQuiet : Bool) →
    (names : List Octets) →
    List Octets × Bool × List Octets
  | [], scripts, isQuiet, names =>
    if scripts.isEmpty then (names.take 1, isQuiet, names.drop 1) else (scripts, isQuiet, names)
  | ['-', 'n'] :: rest, scripts, _, names => sedArguments rest scripts true names
  | ['-', 'n', 'e'] :: script :: rest, scripts, _, names =>
    sedArguments rest (scripts ++ [script]) true names
  | ['-', 'e'] :: script :: rest, scripts, isQuiet, names =>
    sedArguments rest (scripts ++ [script]) isQuiet names
  | ['-', '-'] :: rest, scripts, isQuiet, names => sedArguments [] scripts isQuiet (names ++ rest)
  | name :: rest, scripts, isQuiet, names => sedArguments rest scripts isQuiet (names ++ [name])

/-- Edits its input or the named files line by line. -/
def sed (own : String) (args : List Octets) : Run Nat := do
  let (scripts, isQuiet, names) := sedArguments args [] false []
  if scripts.isEmpty then
    complain s!"Usage: {own} [OPTION]... \x7bscript-only-if-no-other-script\x7d [input-file]..."
    return 1
  else
    let read (script : Octets × Nat) : Except String (List Editor.Step) :=
      (Editor.parse script.1).mapError fun (n, text) =>
        s!"{own}: -e expression #{script.2 + 1}, char {n}: {text}"
    match scripts.zipIdx.mapM read with
    | .ok steps =>
      let complaint (name : Octets) (refusal : Refusal) : String :=
        if refusal = .isADirectory then s!"{own}: read error on {toText name}: Is a directory"
        else s!"{own}: can't read {toText name}: {refusalText refusal}"
      let (found, isWhole) ← inputs complaint names
      write 1 (Editor.edit isQuiet steps.flatten (found.flatMap (·.content)))
      return if isWhole then 0 else if found.any fun i => !i.isFile then 4 else 2
    | .error text =>
      complain text
      return 1

/-- How many words octets hold. -/
def wordCount (cs : Octets) : Nat :=
  (cs.foldl
    (fun (n, inWord) c =>
      let isBlank := " \t\n\r\x0b\x0c".toList.contains c
      (if !isBlank && !inWord then n + 1 else n, !isBlank))
    (0, false)).1

/-- A number, with blanks before it up to the given width. -/
def padded (width n : Nat) : Octets :=
  let digits := (toString n).toList
  List.replicate (width - digits.length) ' ' ++ digits

/-- Counts lines, words and bytes. -/
def wc (own : String) (args : List Octets) : Run Nat := do
  let isFlag (a : Octets) : Bool := a.head? == some '-' && a != ['-']
  let flags := (args.filter isFlag).flatMap List.tail
  let names := args.filter (!isFlag ·)
  let complaint (name : Octets) (refusal : Refusal) : String :=
    s!"{own}: {toText name}: {refusalText refusal}"
  let (found, isWhole) ← inputs complaint names
  let wants (c : Char) : Bool := if flags.isEmpty then c != 'm' else flags.contains c
  let countsOf (content : Octets) : List Nat :=
    (if wants 'l' then [content.count '\n'] else []) ++
    (if wants 'w' then [wordCount content] else []) ++
    (if wants 'm' then [content.length] else []) ++
    (if wants 'c' then [content.length] else [])
  let rows := found.map fun i => (i.name, countsOf i.content)
  let columns := (countsOf []).length
  let totals := rows.foldl (fun sums row => sums.zipWith (· + ·) row.2) (List.replicate columns 0)
  let width :=
    if columns ≤ 1 && names.length ≤ 1 then 1
    else if found.all (·.isFile) then
      (toString (found.foldl (fun n i => n + i.content.length) 0)).length
    else 7
  let print (name : Option Octets) (counts : List Nat) : Run Unit :=
    write 1 (List.intercalate [' '] (counts.map (padded width) ++ name.toList) ++ ['\n'])
  rows.forM fun (name, counts) => print name counts
  if 1 < names.length then print (some "total".toList) totals
  return if isWhole then 0 else 1

/-- How many milliseconds an argument of `sleep` asks for, if it is a number of seconds, minutes,
hours or days. -/
def duration? (arg : Octets) : Option Moment :=
  let whole := arg.takeWhile Char.isDigit
  let rest := arg.drop whole.length
  let places := if rest.head? == some '.' then rest.tail.takeWhile Char.isDigit else []
  let rest := if rest.head? == some '.' then rest.drop (places.length + 1) else rest
  let scale : Option Nat := match rest with
    | [] | ['s'] => some 1
    | ['m'] => some 60
    | ['h'] => some 3600
    | ['d'] => some 86400
    | _ => none
  if whole.isEmpty && places.isEmpty then none
  else
    scale.map fun scale =>
      (Reader.natOf whole * 1000 + Reader.natOf ((places ++ ['0', '0', '0']).take 3)) * scale

/-- Lets the time pass that the arguments ask for. -/
def sleepProgram (own : String) (args : List Octets) : Run Nat := do
  let hint := s!"Try '{own} --help' for more information."
  let flawed := args.filter fun arg => (duration? arg).isNone
  if args.isEmpty then
    complain s!"{own}: missing operand"
    complain hint
    return 1
  else if !flawed.isEmpty then
    flawed.forM fun arg => complain s!"{own}: invalid time interval '{toText arg}'"
    complain hint
    return 1
  else
    sleep ((args.filterMap duration?).foldl (fun n d => n + d) 0)
    return 0

/-- The options of `echo` ahead: whether no line feed is written, whether backslashes mean anything,
and what follows them. -/
def echoOptions : List Octets → (isBare escapes : Bool) → Bool × Bool × List Octets
  | ('-' :: c :: letters) :: rest, isBare, escapes =>
    let all := c :: letters
    if all.all "neE".toList.contains then
      let last := (all.filter (· != 'n')).getLast?
      echoOptions rest (isBare || all.contains 'n') ((last.map (· == 'e')).getD escapes)
    else (isBare, escapes, ('-' :: all) :: rest)
  | rest, isBare, escapes => (isBare, escapes, rest)

/-- Runs one of the small programs; none if there is none of this name.  `own` is what it was called
by. -/
def smallProgram (own name : String) (args : List Octets) : Option (Run Nat) :=
  match name with
  | "cat" => some (cat own args)
  | "sed" => some (sed own args)
  | "wc" => some (wc own args)
  | "pwd" => some do
    if !args.isEmpty then complain s!"{own}: ignoring non-option arguments"
    write 1 (dirText (← shell).dir ++ ['\n'])
    return 0
  | "printf" => some do
    let args := if args.head? = some ['-', '-'] then args.tail else args
    match args with
    | [] =>
      complain s!"{own}: missing operand\nTry '{own} --help' for more information."
      return 1
    | format :: args =>
      let (cs, complaints) := Format.fill true format args
      write 1 cs
      complaints.forM fun c => complain s!"{own}: {c.inProgram}"
      let isFailure := complaints.any fun
        | .excess _ => false
        | _ => true
      return if isFailure then 1 else 0
  | "echo" => some do
    let (isBare, escapes, args) := echoOptions args false false
    write 1 (echo isBare escapes args)
    return 0
  | "sleep" => some (sleepProgram own args)
  | "true" => some (pure 0)
  | "false" => some (pure 1)
  | _ => none

/-- Lets a program from outside go on with what has come, after `input`; `seen` are the lengths
of what it has written before.  It has `fuel` events at most. -/
def goOn (behaviour : Behaviour) : (fuel : Nat) → (input : Bytes) → (seen : Nat × Nat) → Run Nat
  | 0, _, _ => throw .waiting
  | fuel + 1, input, seen => do
    let m ← get
    let input := input ++ toBytes m.arrived
    set { m with arrived := [] }
    let r := behaviour input m.isClosed
    write 1 (ofBytes (r.output.drop seen.1))
    write 2 (ofBytes (r.errors.drop seen.2))
    match r.exit with
    | some code => return code
    | none =>
      receive
      goOn behaviour fuel input (r.output.length, r.errors.length)

/-- Runs the program from outside.  It does not see variables that are no text. -/
def nativeProgram (native : Native) (args : List Octets) : Run Nat := do
  let environment := (← environment).filterMap fun (k, v) => do
    return (← Utf8.decode? (toBytes k), ← Utf8.decode? (toBytes v))
  let behaviour := native (← files) (← shell).dir environment (args.map toBytes)
  match ← handle? 0 with
  | some .input => goOn behaviour ((← eventRoom) + 2) [] (0, 0)
  | _ =>
    let r := behaviour (toBytes (← readAll 0)) true
    write 1 (ofBytes r.output)
    write 2 (ofBytes r.errors)
    return r.exit.getD 0

end Run

end Shell

end ToolRelay
