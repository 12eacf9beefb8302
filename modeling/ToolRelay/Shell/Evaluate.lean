import ToolRelay.Shell.Builtin

/-!
# Running shell commands

`Run.plan` runs a command and gives its status; words are expanded on the way, and programs are
started in the same process, one after the other.  Every recursion takes fuel; a command that
runs out of it is taken to run for ever.
-/

namespace ToolRelay

namespace Shell

/-- How a word is expanded. -/
inductive Mode where
  /-- Into fields, which the values of expansions are cut into. -/
  | fields
  /-- Into fields, which all octets without quotes are cut into. -/
  | alternative
  /-- Into one text. -/
  | whole
  deriving DecidableEq, Repr

namespace Run

/-- The value of a parameter, if it has any. -/
def parameter? (name : Octets) : Run (Option Octets) := do
  let s ← shell
  match name with
  | ['?'] => return some (toString s.status).toList
  | ['#'] => return some (toString s.args.length).toList
  | ['$'] => return some processNumber
  | ['!'] => return some asideNumber
  | ['0'] => return some s.name
  | ['@'] | ['*'] =>
    let between ← if name = ['@'] then pure [' '] else do pure ((← separators).take 1)
    return if s.args.isEmpty then none else some (List.intercalate between s.args)
  | name =>
    if name.all Char.isDigit then return s.args[Reader.natOf name - 1]? else valueOf? name

/-- Turns what a computation does with its status into a test, which never ends the shell. -/
def tested (body : Run Nat) : Run Nat := do
  let before := (← shell).isTested
  modifyShell fun s => { s with isTested := true }
  let status ← body
  modifyShell fun s => { s with isTested := before }
  return status

/-- Runs the body of a loop once: its status, and whether the loop goes on. -/
def round (body : Run (Nat × Bool)) : Run (Nat × Bool) := do
  let before ← shell
  modifyShell fun s => { s with loops := before.loops + 1 }
  let outcome ←
    tryCatch body fun
      | .leaving n => if n ≤ 1 then pure (0, false) else throw (.leaving (n - 1))
      | .continuing n => if n ≤ 1 then pure (0, true) else throw (.continuing (n - 1))
      | stop => throw stop
  modifyShell fun s => { s with loops := before.loops, isTested := before.isTested }
  return outcome

/-- Runs a function with arguments of its own. -/
def call (args : List Octets) (body : Run Nat) : Run Nat := do
  let before ← shell
  modifyShell fun s => { s with args := args, saved := [], loops := 0, isInFunction := true }
  let status ←
    tryCatch body fun
      | .returned status => pure status
      | stop => throw stop
  restoreVariables (← shell).saved
  modifyShell fun s =>
    { s with
      args := before.args
      saved := before.saved
      loops := before.loops
      isInFunction := before.isInFunction
      isTested := before.isTested }
  return status

/-- Runs a computation, after which the descriptors refer to what they referred to before. -/
def keepingHandles (body : Run Nat) : Run Nat := do
  let handles := (← shell).handles
  try body finally modifyShell fun s => { s with handles }

/-- Ends the shell after a failure that nothing looks at, if it is to end then. -/
def check (status : Nat) : Run Nat := do
  let s ← shell
  if status != 0 && !s.isTested && s.options.contains 'e' then throw (.exited status)
  else return status

/-- Writes the words of a command to standard error, if that is asked for. -/
def trace (assignments : List (Octets × Octets)) (words : List Octets) : Run Unit := do
  if (← shell).options.contains 'x' then
    let settings := assignments.map fun (name, value) => name ++ '=' :: value
    write 2 ('+' :: ' ' :: List.intercalate [' '] (settings ++ words) ++ ['\n'])

/-- Restores what assignments before a command have changed. -/
def restoreAssigned (before : State) (names : List Octets) : Run Unit := do
  for name in names do
    match before.bindings.find? (·.1 == name) with
    | some (_, value) => setVariable name value
    | none => unsetVariable name
    if !before.exported.contains name then
      modifyShell fun s => { s with exported := s.exported.filter (· != name) }

/-- The path of the file that a command without a separator is found at. -/
def pathOf? (command : Octets) : Run (Option Octets) := do
  let dir := (← shell).dir
  let tree ← files
  if command.contains '/' then
    return if (executableAt tree dir 5 command).isOk then some command else none
  else
    return (searchDirectories (← valueOf? "PATH".toList)).findSome? fun d =>
      let path := if d.isEmpty then command else d ++ '/' :: command
      if (executableAt tree dir 5 path).isOk then some path else none

/-- What a name means as a command, in words and as `command -v` shows it. -/
def meaning? (name : Octets) : Run (Option (String × Octets)) := do
  if Reader.reservedWords.contains name then return some ("is a shell keyword", name)
  else if (← shell).functions.any (·.1 == name) then return some ("is a shell function", name)
  else if specialNames.contains name then return some ("is a special shell builtin", name)
  else if ordinaryNames.contains name then return some ("is a shell builtin", name)
  else
    match ← pathOf? name with
    | some path => return some (s!"is {toText path}", path)
    | none => return none

/-- Says what names mean as commands. -/
def typeCommand (names : List Octets) : Run Nat :=
  names.foldlM
    (fun status name => do
      match ← meaning? name with
      | some (text, _) =>
        write 1 (name ++ ' ' :: ofString text ++ ['\n'])
        return status
      | none =>
        write 1 (name ++ ": not found\n".toList)
        return 127) 0

/-! ### Words, commands and programs -/

/-- Opens a file for writing, from its beginning or after what it holds; a file that does not exist
comes into being.  Otherwise the reason why it cannot be opened. -/
def writable (appends : Bool) (name : Octets) : Run (Except String Handle) := do
  let dir := (← shell).dir
  let tree ← files
  let start (entry : List Bytes) (executable : Bool) : Run (Except String Handle) := do
    modify fun m => { m with tree := m.tree.insert entry (.file [] executable) }
    return .ok (.file entry)
  match tree.lookup dir ⟨toBytes name⟩ with
  | .ok (_, .directory) => return .error "Is a directory"
  | .ok (_, .sink) => return .ok .sink
  | .ok (_, .program _) => return .error "Text file busy"
  | .ok (entry, .file _ executable) =>
    if appends then return .ok (.file entry) else start entry executable
  | .error _ =>
    let last := (name.reverse.takeWhile (· != '/')).reverse
    let above := name.take (name.length - last.length)
    match tree.lookup dir ⟨toBytes (if above.isEmpty then ['.'] else above)⟩ with
    | .ok (entry, .directory) =>
      if last.isEmpty then return .error "Directory nonexistent"
      else start (entry ++ [toBytes last]) false
    | _ => return .error "Directory nonexistent"

mutual

/-- Expands the pieces of a word into fields. -/
def pieces (i : Native) : (fuel : Nat) → Mode → List Piece → Fields → Run Fields
  | 0, _, _, _ => throw .waiting
  | _ + 1, _, [], f => return f
  | fuel + 1, mode, .literal cs quoted :: rest, f => do
    if mode = .alternative ∧ !quoted then
      pieces i fuel mode rest (f.addSplit (← separators) cs)
    else pieces i fuel mode rest (f.add (cs.map (·, !quoted)))
  | fuel + 1, mode, .parameter name change word quoted :: rest, f => do
    let isAll := name = ['@'] || name = ['*']
    if isAll && change = .same && mode ≠ .whole && (!quoted || name = ['@']) then
      let args := (← shell).args
      let separators ← separators
      let add (f : Fields) (cs : Octets) : Fields :=
        if quoted then f.add (cs.map (·, false)) else f.addSplit separators cs
      pieces i fuel mode rest (f.addAll add args)
    else
      pieces i fuel mode rest (← changed i fuel mode name change word quoted f)
  | fuel + 1, mode, .output p quoted :: rest, f => do
    let outcome ← captured i fuel p
    pieces i fuel mode rest (← value mode quoted f outcome)
  | fuel + 1, mode, .number expression quoted :: rest, f => do
    let expression ← text i fuel expression
    match Arithmetic.evaluate (← shell).bindings expression with
    | .ok (n, changes) =>
      changes.reverse.forM fun (name, value) => setVariable name value
      pieces i fuel mode rest (← value mode quoted f (toString n).toList)
    | .error flaw => shellFails (flaw.message expression)

/-- Adds the value of an expansion to fields. -/
def value (mode : Mode) (quoted : Bool) (f : Fields) (cs : Octets) : Run Fields := do
  if quoted then return f.add (cs.map (·, false))
  else if mode = .whole then return f.add (cs.map (·, true))
  else return f.addSplit (← separators) cs

/-- Adds the value of a parameter, changed by means of a word, to fields. -/
def changed (i : Native) : (fuel : Nat) → Mode → Octets → Change → Word → (quoted : Bool) →
    Fields → Run Fields
  | 0, _, _, _, _, _, _ => throw .waiting
  | fuel + 1, mode, name, change, word, quoted, f => do
    let found ← parameter? name
    let hasValue (orEmpty : Bool) : Bool :=
      match found with
      | some cs => !(orEmpty && cs.isEmpty)
      | none => false
    let own := found.getD []
    let instead : Run Fields := do
      if quoted || mode = .whole then value .whole quoted f (← text i fuel word)
      else pieces i fuel .alternative word f
    match change with
    | .same =>
      let isAll := name = ['@'] || name = ['*']
      if found.isNone && !isAll && (← shell).options.contains 'u' then
        shellFails s!"{toText name}: parameter not set"
      else value mode quoted f own
    | .length => value mode quoted f (toString own.length).toList
    | .orElse orEmpty => if hasValue orEmpty then value mode quoted f own else instead
    | .orAssign orEmpty =>
      if hasValue orEmpty then value mode quoted f own
      else
        let cs ← text i fuel word
        setVariable name cs
        value mode quoted f cs
    | .instead orEmpty => if hasValue orEmpty then instead else value mode quoted f []
    | .orFail orEmpty =>
      if hasValue orEmpty then value mode quoted f own
      else
        let reason ← text i fuel word
        let common := if orEmpty then "parameter not set or null" else "parameter not set"
        shellFails s!"{toText name}: {if reason.isEmpty then common else toText reason}"
    | .withoutStart longest => do
      let parts := Wildcard.ofMarked (← markedText i fuel word)
      value mode quoted f (Wildcard.withoutStart parts longest own)
    | .withoutEnd longest => do
      let parts := Wildcard.ofMarked (← markedText i fuel word)
      value mode quoted f (Wildcard.withoutEnd parts longest own)

/-- What a command writes, without the line feeds at its end. -/
def captured (i : Native) : (fuel : Nat) → Plan → Run Octets
  | 0, _ => throw .waiting
  | fuel + 1, p => do
    let collector ← newPipe []
    let status ← inside do
      setHandle 1 (some collector)
      modifyShell fun s => { s with isTested := false }
      plan i fuel p
    modifyShell fun s => { s with outputStatus := status }
    match collector with
    | .pipe n => return dropLineEnds (← pipeContent n)
    | _ => return []

/-- A word as a single text, where octets without quotes are marked. -/
def markedText (i : Native) : (fuel : Nat) → Word → Run Wildcard.Marked
  | 0, _ => throw .waiting
  | fuel + 1, word => do
    let f ← pieces i fuel .whole (← withHome word) .start
    return f.toList.flatten

/-- A word as a single text. -/
def text (i : Native) : (fuel : Nat) → Word → Run Octets
  | 0, _ => throw .waiting
  | fuel + 1, word => do return (← markedText i fuel word).map Prod.fst

/-- A word with the home directory in the place of a tilde at its beginning. -/
def withHome (word : Word) : Run Word := do
  match word with
  | .literal ('~' :: cs) false :: rest =>
    match ← valueOf? "HOME".toList with
    | some home =>
      if cs.isEmpty || cs.head? = some '/' then
        return .literal home true :: .literal cs false :: rest
      else return word
    | none => return word
  | word => return word

/-- Words as the fields that they expand to. -/
def fields (i : Native) : (fuel : Nat) → List Word → Run (List Octets)
  | 0, _ => throw .waiting
  | _ + 1, [] => return []
  | fuel + 1, word :: rest => do
    let f ← pieces i fuel .fields (← withHome word) .start
    let s ← shell
    let tree ← files
    let expand (field : Wildcard.Marked) : List Octets :=
      if s.options.contains 'f' then [field.map Prod.fst] else pathsOf tree s.dir field
    return f.toList.flatMap expand ++ (← fields i fuel rest)

/-- Carries out redirections; whether all of them could be. -/
def redirect (i : Native) : (fuel : Nat) → List Redirection → Run Bool
  | 0, _ => throw .waiting
  | _ + 1, [] => return true
  | fuel + 1, .duplicate descriptor source :: rest => do
    match ← handle? source with
    | some handle =>
      setHandle descriptor (some handle)
      redirect i fuel rest
    | none =>
      shellComplains s!"{source}: Bad file descriptor"
      return false
  | fuel + 1, .close descriptor :: rest => do
    setHandle descriptor none
    redirect i fuel rest
  | fuel + 1, .writeTo descriptor appends word :: rest => do
    let name ← text i fuel word
    match ← writable appends name with
    | .ok handle =>
      setHandle descriptor (some handle)
      redirect i fuel rest
    | .error reason =>
      shellComplains s!"cannot create {toText name}: {reason}"
      return false
  | fuel + 1, .readFrom descriptor word :: rest => do
    let name ← text i fuel word
    match (← files).lookup (← shell).dir ⟨toBytes name⟩ with
    | .ok (_, .file content _) =>
      setHandle descriptor (some (← newPipe (ofBytes content)))
      redirect i fuel rest
    | .ok _ =>
      setHandle descriptor (some .sink)
      redirect i fuel rest
    | .error _ =>
      shellComplains s!"cannot open {toText name}: No such file"
      return false
  | fuel + 1, .readText descriptor word :: rest => do
    let content ← text i fuel word
    setHandle descriptor (some (← newPipe content))
    redirect i fuel rest

/-- Assigns the values of words to variables; with `shown`, commands see them. -/
def assign (i : Native) (shown : Bool) : (fuel : Nat) → List (Octets × Word) →
    Run (List (Octets × Octets))
  | 0, _ => throw .waiting
  | _ + 1, [] => return []
  | fuel + 1, (name, word) :: rest => do
    let cs ← text i fuel word
    guardVariable "" name
    setVariable name cs
    if shown then exportVariable name
    return (name, cs) :: (← assign i shown fuel rest)

/-- Runs what is ahead in a script, line by line; complaints about it begin with `context`. -/
def source (i : Native) (context : String) : (fuel : Nat) → Source → Run Nat
  | 0, _ => throw .waiting
  | fuel + 1, s => do
    match s.next with
    | .error mistake =>
      modifyShell fun s => { s with line := mistake.line }
      shellFails (context ++ mistake.text)
    | .ok none => return (← shell).status
    | .ok (some (p, s)) =>
      let _ ← plan i fuel p
      source i context fuel s

/-- Runs a script in a shell of its own, and then what is to be run at its end. -/
def script (i : Native) : (fuel : Nat) → (name : Octets) → (content : Octets) →
    List Octets → Run Nat
  | 0, _, _, _ => throw .waiting
  | fuel + 1, name, content, args => do
    modifyShell fun s =>
      { s with
        name := name
        args := args
        bindings := s.bindings.filter fun v => s.exported.contains v.1
        constants := []
        functions := []
        traps := []
        saved := []
        isTested := false
        loops := 0
        isInFunction := false
        line := 1
        status := 0 }
    setVariable "PWD".toList (dirText (← shell).dir)
    exportVariable "PWD".toList
    let endedBy : Stop → Run Nat := fun
      | .exited status | .returned status => pure status
      | .leaving _ | .continuing _ => return (← shell).status
      | stop => throw stop
    let status ← tryCatch (source i "" fuel ⟨content, 1⟩) endedBy
    match (← shell).traps.find? (·.1 == "EXIT".toList) with
    | none => return status
    | some (_, action) =>
      modifyShell fun s => { s with status, traps := [] }
      tryCatch (do let _ ← source i "" fuel ⟨action, 1⟩; return status) endedBy

/-- Runs the shell with the given arguments; `own` is what it was called by. -/
def shellProgram (i : Native) : (fuel : Nat) → (own : Octets) → List Octets → Run Nat
  | 0, _, _ => throw .waiting
  | fuel + 1, own, args => do
    match args with
    | [] => script i fuel own (← readAll 0) []
    | ['-', 's'] :: rest => script i fuel own (← readAll 0) rest
    | arg :: rest =>
      if arg.head? = some '-' ∧ 1 < arg.length then
        let letters := arg.tail.filter fun c => c != 'c' && c != '-'
        match letters.find? fun c => !optionNames.any (·.2 == c) with
        | some letter =>
          complain s!"{toText own}: 0: Illegal option -{letter}"
          return 2
        | none =>
          letters.forM (setOption true)
          if arg.contains 'c' then
            match rest with
            | [] =>
              complain s!"{toText own}: 0: -c requires an argument"
              return 2
            | [content] => script i fuel own content []
            | content :: name :: args => script i fuel name content args
          else shellProgram i fuel own rest
      else
        match (← files).readFile (← shell).dir ⟨toBytes arg⟩ with
        | .ok content => script i fuel arg (ofBytes content) rest
        | .error _ =>
          complain s!"{toText own}: 0: cannot open {toText arg}: No such file"
          return 2

/-- Runs a program in an environment with assignments from its first arguments. -/
def envProgram (i : Native) : (fuel : Nat) → List Octets → Run Nat
  | 0, _ => throw .waiting
  | fuel + 1, args => do
    match args with
    | [] =>
      for (name, value) in ← environment do
        write 1 (name ++ '=' :: value ++ ['\n'])
      return 0
    | ['-', 'i'] :: rest | ['-'] :: rest =>
      modifyShell fun s => { s with exported := [], bindings := [] }
      envProgram i fuel rest
    | ['-', 'u'] :: name :: rest =>
      unsetVariable name
      envProgram i fuel rest
    | ['-', '-'] :: rest => envProgram i fuel rest
    | arg :: rest =>
      if arg.contains '=' then
        let name := arg.takeWhile (· != '=')
        setVariable name (arg.drop (name.length + 1))
        exportVariable name
        envProgram i fuel rest
      else
        match executable (← files) (← shell).dir (← valueOf? "PATH".toList) arg with
        | .ok e => program i fuel e rest
        | .error .notFound =>
          complain s!"env: '{toText arg}': No such file or directory"
          return 127
        | .error _ =>
          complain s!"env: '{toText arg}': Permission denied"
          return 126

/-- Runs a program. -/
def program (i : Native) : (fuel : Nat) → Executable → List Octets → Run Nat
  | 0, _, _ => throw .waiting
  | fuel + 1, e, args => do
    let args := e.leading ++ args
    if e.program = "sh" then shellProgram i fuel e.calledBy args
    else if e.program = "env" then envProgram i fuel args
    else if e.program = nativeName then nativeProgram i args
    else
      match smallProgram (toText e.calledBy) e.program args with
      | some run => run
      | none => return 127

/-- Runs a command that is a file; complaints about it begin with `context`. -/
def external (i : Native) : (fuel : Nat) → (context : String) → (command : Octets) →
    List Octets → Run Nat
  | 0, _, _, _ => throw .waiting
  | fuel + 1, context, command, args => do
    match executable (← files) (← shell).dir (← valueOf? "PATH".toList) command with
    | .ok e => inside do
      arrangeVariables
      program i fuel e args
    | .error .notFound =>
      let reason := if command.isEmpty then "Permission denied" else "not found"
      shellComplains s!"{context}{toText command}: {reason}"
      return 127
    | .error _ =>
      shellComplains s!"{context}{toText command}: Permission denied"
      return 126

/-- Does what a signal to the process does. -/
def receiveSignal (i : Native) : (fuel : Nat) → (signal : Octets) → Run Unit
  | 0, _ => throw .waiting
  | fuel + 1, signal => do
    let isFinal := ["KILL", "STOP"].any (·.toList == signal)
    let isHarmless := ["EXIT", "CHLD", "CONT", "URG", "WINCH"].any (·.toList == signal)
    match (← shell).traps.find? fun t => t.1 == signal && !isFinal with
    | some (_, action) =>
      let status := (← shell).status
      let _ ← source i "" fuel ⟨action, 1⟩
      modifyShell fun s => { s with status }
    | none => if isHarmless then pure () else throw .killed

/-- Sends a signal to the process itself, or to a command that is not waited for. -/
def killCommand (i : Native) : (fuel : Nat) → List Octets → Run Nat
  | 0, _ => throw .waiting
  | fuel + 1, args => do
    let usage : String := "Usage: kill [-s sigspec | -signum | -sigspec] [pid | job]... or\n" ++
      "kill -l [exitstatus]"
    let (named, numbers) := match args with
      | ['-', 's'] :: name :: rest => (some name, rest)
      | ('-' :: c :: name) :: rest => (some (c :: name), rest)
      | rest => (some "TERM".toList, rest)
    match named.bind signal? with
    | none => refuse "kill" s!"Illegal option -{toText ((named.getD []).take 1)}"
    | some signal =>
      if numbers.isEmpty then refuse "kill" usage
      else
        numbers.foldlM
          (fun status number => do
            if number = processNumber then
              receiveSignal i fuel signal
              return status
            else if number = asideNumber then
              if signal != "EXIT".toList then modify fun m => { m with heldUntil := m.now }
              return status
            else if number.all Char.isDigit then
              shellComplains "kill: No such process\n"
              return 1
            else refuse "kill" s!"Illegal number: {toText number}") 0

/-- Runs a command by its fields, which are one at least; functions count if `isOpen`. -/
def invoke (i : Native) : (fuel : Nat) → (isOpen : Bool) → (command : Octets) →
    List Octets → Run Nat
  | 0, _, _, _ => throw .waiting
  | fuel + 1, isOpen, command, args => do
    match (← shell).functions.find? (·.1 == command) with
    | some (_, body) =>
      if !isOpen || specialNames.contains command then special i fuel command args
      else call args (plan i fuel body)
    | none => special i fuel command args

/-- Runs a command that is no function. -/
def special (i : Native) : (fuel : Nat) → (command : Octets) → List Octets → Run Nat
  | 0, _, _ => throw .waiting
  | fuel + 1, command, args => do
    match String.ofList command with
    | "eval" =>
      let content := List.intercalate [' '] args
      if args.isEmpty then return 0
      else
        modifyShell fun s => { s with status := 0 }
        source i "eval: " fuel ⟨content, (← shell).line⟩
    | "." =>
      match args with
      | [] => return 0
      | file :: _ =>
        let directories := searchDirectories (← valueOf? "PATH".toList)
        let names :=
          if file.contains '/' then [file] else directories.map fun d => d ++ '/' :: file
        let dir := (← shell).dir
        let tree ← files
        match names.findSome? fun name => (tree.readFile dir ⟨toBytes name⟩).toOption with
        | some content =>
          let line := (← shell).line
          modifyShell fun s => { s with status := 0 }
          let status ←
            tryCatch (source i "" fuel ⟨ofBytes content, 1⟩) fun
              | .returned status => pure status
              | stop => throw stop
          modifyShell fun s => { s with line }
          return status
        | none =>
          if file.contains '/' then shellFails s!".: cannot open {toText file}: No such file"
          else shellFails s!".: {toText file}: not found"
    | "command" =>
      match args with
      | [] => return 0
      | ['-', 'v'] :: names =>
        names.foldlM
          (fun status name => do
            match ← meaning? name with
            | some (_, shown) =>
              write 1 (shown ++ ['\n'])
              return status
            | none => return 127) 0
      | ['-', 'V'] :: names => typeCommand names
      | ['-', 'p'] :: command :: args => invoke i fuel false command args
      | command :: args => invoke i fuel false command args
    | "type" => typeCommand args
    | "kill" => killCommand i fuel args
    | name =>
      match builtin name args with
      | some run => run
      | none => external i fuel "" command args

/-- Runs a command of assignments, words and redirections. -/
def simple (i : Native) : (fuel : Nat) → List (Octets × Word) → List Word →
    List Redirection → Run Nat
  | 0, _, _, _ => throw .waiting
  | fuel + 1, assignments, words, redirections => do
    modifyShell fun s => { s with outputStatus := 0 }
    let args ← fields i fuel words
    let isSpecial := args.head?.any specialNames.contains
    match args with
    | ['e', 'x', 'e', 'c'] :: args =>
      if !(← redirect i fuel redirections) then throw (.exited 2)
      noteClosed
      match args with
      | [] => return 0
      | command :: args =>
        let _ ← assign i true fuel assignments
        modifyShell fun s => { s with traps := [] }
        throw (.exited (← external i fuel "exec: " command args))
    | args =>
      keepingHandles do
        if !(← redirect i fuel redirections) then
          if isSpecial then throw (.exited 2) else return 2
        match args with
        | [] =>
          let values ← assign i false fuel assignments
          trace values []
          return (← shell).outputStatus
        | command :: args =>
          let before ← shell
          let values ← assign i true fuel assignments
          trace values (command :: args)
          let status ← invoke i fuel true command args
          if !isSpecial then restoreAssigned before (values.map Prod.fst)
          return status

/-- Runs a command and gives its status. -/
def plan (i : Native) : (fuel : Nat) → Plan → Run Nat
  | 0, _ => throw .waiting
  | fuel + 1, p => do
    let status ← match p with
      | .nothing => return (← shell).status
      | .simple line assignments words redirections => do
        modifyShell fun s => { s with line }
        check (← simple i fuel assignments words redirections)
      | .redirected body redirections => do
        if redirections.isEmpty then plan i fuel body
        else
          keepingHandles do
            if ← redirect i fuel redirections then plan i fuel body else check 2
      | .pipe first second => do
        let between ← newPipe []
        let _ ← inside do
          setHandle 1 (some between)
          plan i fuel first
        let status ← inside do
          setHandle 0 (some between)
          plan i fuel second
        check status
      | .negate body => do pure (if (← tested (plan i fuel body)) = 0 then 1 else 0)
      | .andThen first second => do
        let status ← tested (plan i fuel first)
        if status = 0 then plan i fuel second else pure status
      | .orElse first second => do
        let status ← tested (plan i fuel first)
        if status = 0 then pure 0 else plan i fuel second
      | .sequence first second => do
        let _ ← plan i fuel first
        plan i fuel second
      | .background body => do
        aside (plan i fuel body)
        pure 0
      | .subshell body => do check (← inside (plan i fuel body))
      | .choose test body otherwise => do
        if (← tested (plan i fuel test)) = 0 then plan i fuel body
        else
          modifyShell fun s => { s with status := 0 }
          plan i fuel otherwise
      | .select word cases => do
        let subject ← text i fuel word
        select i fuel subject cases
      | .loop until_ test body => loop i fuel 0 until_ test body
      | .each name words body => do
        let items ← fields i fuel words
        each i fuel 0 name items body
      | .define name body => do
        modifyShell fun s => { s with functions := (name, body) :: s.functions }
        pure 0
    modifyShell fun s => { s with status }
    return status

/-- Runs the first command one of whose patterns matches a text. -/
def select (i : Native) : (fuel : Nat) → (subject : Octets) →
    List (List Word × Plan) → Run Nat
  | 0, _, _ => throw .waiting
  | _ + 1, _, [] => return 0
  | fuel + 1, subject, (patterns, body) :: rest => do
    if ← matchesAny i fuel subject patterns then
      modifyShell fun s => { s with status := 0 }
      plan i fuel body
    else select i fuel subject rest

/-- Whether one of several patterns matches a text. -/
def matchesAny (i : Native) : (fuel : Nat) → (subject : Octets) → List Word → Run Bool
  | 0, _, _ => throw .waiting
  | _ + 1, _, [] => return false
  | fuel + 1, subject, pattern :: rest => do
    let parts := Wildcard.ofMarked (← markedText i fuel pattern)
    if Wildcard.matchesAll parts subject then return true else matchesAny i fuel subject rest

/-- Runs a command again and again, as long as a test succeeds or fails; `last` is the status of
the last round. -/
def loop (i : Native) : (fuel last : Nat) → (until_ : Bool) → (test body : Plan) → Run Nat
  | 0, _, _, _, _ => throw .waiting
  | fuel + 1, last, until_, test, body => do
    let (status, goesOn) ← round do
      let succeeds := (← tested (plan i fuel test)) == 0
      if succeeds == until_ then return (last, false)
      else
        let status ← plan i fuel body
        return (status, true)
    if goesOn then loop i fuel status until_ test body else return status

/-- Runs a command for each of several values of a variable; `last` is the status of the last
round. -/
def each (i : Native) : (fuel last : Nat) → Octets → List Octets → Plan → Run Nat
  | 0, _, _, _, _ => throw .waiting
  | _ + 1, last, _, [], _ => return last
  | fuel + 1, _, name, item :: rest, body => do
    setVariable name item
    let (status, goesOn) ← round do
      let status ← plan i fuel body
      return (status, true)
    if goesOn then each i fuel status name rest body else return status

end

end Run

end Shell

end ToolRelay
