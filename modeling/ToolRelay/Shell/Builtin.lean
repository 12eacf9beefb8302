import ToolRelay.Shell.Condition
import ToolRelay.Shell.Fields
import ToolRelay.Shell.Program

/-!
# Commands of the shell itself

The commands that a shell runs without a program and that need no other commands run: those that
change variables, options and the directory, read and write, decide conditions, and leave loops and
functions.
-/

namespace ToolRelay

namespace Shell

/-- The number of the process, as commands see it. -/
def processNumber : Octets := "4711".toList

/-- The number of a command that is not waited for, as commands see it. -/
def asideNumber : Octets := "4712".toList

/-- The commands whose failure ends the shell, and whose assignments stay. -/
def specialNames : List Octets :=
  [".", ":", "break", "continue", "eval", "exec", "exit", "export", "readonly", "return", "set",
    "shift", "times", "trap", "unset"].map String.toList

/-- The other commands of the shell itself. -/
def ordinaryNames : List Octets :=
  ["[", "cd", "command", "echo", "false", "kill", "local", "printf", "pwd", "read", "test", "true",
    "type", "umask", "wait"].map String.toList

/-- The names of the signals by their numbers. -/
def signalNames : List (Nat × String) :=
  [(0, "EXIT"), (1, "HUP"), (2, "INT"), (3, "QUIT"), (6, "ABRT"), (9, "KILL"), (10, "USR1"),
    (12, "USR2"), (13, "PIPE"), (14, "ALRM"), (15, "TERM"), (17, "CHLD"), (18, "CONT"),
    (19, "STOP"), (23, "URG"), (28, "WINCH")]

/-- The name of the signal that octets stand for by its number or its name. -/
def signal? (cs : Octets) : Option Octets :=
  (signalNames.find? fun (n, name) => (toString n).toList == cs || name.toList == cs).map
    fun (_, name) => name.toList

/-- Whether octets can be the name of a variable. -/
def isName (cs : Octets) : Bool :=
  !cs.isEmpty && cs.all Reader.isNameChar && !(cs.headD '0').isDigit

namespace Run

/-- The octets that separate fields. -/
def separators : Run Octets := do return (← valueOf? "IFS".toList).getD commonSeparators

/-- Fails in an ordinary command, which the shell survives. -/
def refuse (command text : String) : Run Nat := do
  shellComplains s!"{command}: {text}"
  return 2

/-- The number that octets spell with digits alone; a command fails if they do not. -/
def count (command : String) (cs : Octets) : Run Nat := do
  if !cs.isEmpty && cs.all Char.isDigit then return Reader.natOf cs
  else shellFails s!"{command}: Illegal number: {toText cs}"

/-! ### Reading lines -/

/-- Octets without the backslashes that protect the octet after them. -/
def protect : Octets → Wildcard.Marked
  | '\\' :: c :: rest => (c, false) :: protect rest
  | ['\\'] => []
  | c :: rest => (c, true) :: protect rest
  | [] => []

/-- Takes a line for `read`, where a backslash protects the octet after it unless `raw`, and joins
lines; `fuel` lines at most.  Also tells whether a line feed ends it. -/
def logicalLine (raw : Bool) : (fuel : Nat) → Run (Wildcard.Marked × Bool)
  | 0 => return ([], false)
  | fuel + 1 => do
    let (line, complete) ← readLine 0
    let marked (cs : Octets) : Wildcard.Marked := if raw then cs.map (·, true) else protect cs
    let slashes := line.reverse.takeWhile (· == '\\')
    if !raw && complete && slashes.length % 2 == 1 then
      let (more, complete) ← logicalLine raw fuel
      return (marked line ++ more, complete)
    else return (marked line, complete)

/-- Gives a line to variables: a field to each, and to the last one all that is left, up to the
blanks after which nothing but protected octets comes. -/
def assignFields (separators : Octets) : List Octets → Wildcard.Marked → Run Unit
  | [], _ => pure ()
  | name :: names, line => do
    let separates (c : Char × Bool) : Bool := c.2 && separators.contains c.1
    let isBlank (c : Char × Bool) : Bool := separates c && isBlankSeparator c.1
    let line := line.dropWhile isBlank
    if names.isEmpty then
      let body := (line.reverse.dropWhile fun c => isBlank c || !c.2).reverse
      let protected_ := (line.drop body.length).takeWhile (!isBlank ·)
      setVariable name ((body ++ protected_).map Prod.fst)
    else
      let field := line.takeWhile (!separates ·)
      setVariable name (field.map Prod.fst)
      let rest := (line.drop field.length).dropWhile isBlank
      let rest := match rest with
        | c :: after => if separates c then after.dropWhile isBlank else rest
        | [] => []
      assignFields separators names rest

/-- Reads a line into variables. -/
def readCommand (args : List Octets) : Run Nat := do
  let raw := args.head? == some ['-', 'r']
  let names := if raw then args.tail else args
  match names.find? (!isName ·) with
  | some name => refuse "read" s!"{toText name}: bad variable name"
  | none =>
    if names.isEmpty then refuse "read" "arg count"
    else
      let (line, complete) ← logicalLine raw ((← eventRoom) + 1000)
      assignFields (← separators) names line
      return if complete then 0 else 1

/-! ### Variables, options and the directory -/

/-- Ends the shell if a variable must not change; the complaint begins with `context`. -/
def guardVariable (context : String) (name : Octets) : Run Unit := do
  if (← shell).constants.contains name then shellFails s!"{context}{toText name}: is read only"

/-- Sets variables from words of the form `name=value`, and does something before and after
that. -/
def declare (command : String) (before after : Octets → Run Unit) (args : List Octets) :
    Run Nat := do
  for arg in args do
    let name := arg.takeWhile (· != '=')
    if !isName name then shellFails s!"{command}: {toText name}: bad variable name"
    before name
    if arg.contains '=' then
      guardVariable s!"{command}: " name
      setVariable name (arg.drop (name.length + 1))
    after name
  return 0

/-- Keeps a variable from changing. -/
def fixVariable (name : Octets) : Run Unit :=
  modifyShell fun s => { s with constants := name :: s.constants }

/-- Notes the value that a variable gets back when the current function ends. -/
def saveVariable (name : Octets) : Run Unit := do
  let old ← valueOf? name
  modifyShell fun s => { s with saved := (name, old) :: s.saved }

/-- Gives variables the values back that they had. -/
def restoreVariables (saved : List (Octets × Option Octets)) : Run Unit := do
  for (name, old) in saved do
    match old with
    | some value => setVariable name value
    | none => unsetVariable name

/-- Forgets variables, or functions after `-f`. -/
def unsetCommand (args : List Octets) : Run Nat := do
  match args with
  | ['-', 'f'] :: names =>
    modifyShell fun s =>
      { s with functions := s.functions.filter fun f => !names.contains f.1 }
    return 0
  | args =>
    for name in if args.head? = some ['-', 'v'] then args.tail else args do
      if !isName name then shellFails s!"unset: {toText name}: bad variable name"
      guardVariable "unset: " name
      unsetVariable name
    return 0

/-- The options by their long names. -/
def optionNames : List (String × Char) :=
  [("errexit", 'e'), ("nounset", 'u'), ("noglob", 'f'), ("xtrace", 'x'), ("allexport", 'a'),
    ("noclobber", 'C'), ("verbose", 'v'), ("noexec", 'n'), ("monitor", 'm'), ("notify", 'b')]

/-- Turns an option on or off. -/
def setOption (isOn : Bool) (letter : Char) : Run Unit :=
  modifyShell fun s =>
    let others := s.options.filter (· != letter)
    { s with options := if isOn then letter :: others else others }

/-- Sets options and the arguments; `fuel` words at most. -/
def setCommand : (fuel : Nat) → List Octets → Run Nat
  | 0, _ => return 0
  | fuel + 1, args => do
    match args with
    | [] => return 0
    | ['-', '-'] :: rest =>
      modifyShell fun s => { s with args := rest }
      return 0
    | (sign :: letters) :: rest =>
      if (sign = '-' ∨ sign = '+') ∧ !letters.isEmpty then
        let isOn := sign == '-'
        match letters, rest with
        | ['o'], name :: rest =>
          match optionNames.find? (·.1.toList == name) with
          | some (_, letter) => setOption isOn letter
          | none => shellFails s!"set: Illegal option -o {toText name}"
          setCommand fuel rest
        | letters, rest =>
          for letter in letters do
            if optionNames.any (·.2 == letter) then setOption isOn letter
            else shellFails s!"set: Illegal option -{letter}"
          setCommand fuel rest
      else
        modifyShell fun s => { s with args := args }
        return 0
    | args =>
      modifyShell fun s => { s with args := args }
      return 0

/-- Changes the current directory. -/
def cdCommand (args : List Octets) : Run Nat := do
  let args := match args with
    | ['-', '-'] :: rest | ['-', 'P'] :: rest | ['-', 'L'] :: rest => rest
    | args => args
  let old := dirText (← shell).dir
  let goTo (target : Octets) (isShown : Bool) : Run Nat := do
    match (← files).lookup (← shell).dir ⟨toBytes target⟩ with
    | .ok (name, .directory) =>
      modifyShell fun s => { s with dir := name }
      setVariable "OLDPWD".toList old
      exportVariable "OLDPWD".toList
      setVariable "PWD".toList (dirText name)
      exportVariable "PWD".toList
      if isShown then write 1 (dirText name ++ ['\n'])
      return 0
    | _ => refuse "cd" s!"can't cd to {toText target}"
  match args with
  | ['-'] :: _ => goTo ((← valueOf? "OLDPWD".toList).getD old) true
  | target :: _ => goTo (if target.isEmpty then ['.'] else target) false
  | [] =>
    match ← valueOf? "HOME".toList with
    | some home => goTo (if home.isEmpty then ['.'] else home) false
    | none => return 0

/-- Changes what is run at signals and at the end. -/
def trapCommand (args : List Octets) : Run Nat := do
  match args with
  | [] => return 0
  | action :: signals =>
    for name in signals do
      match signal? name with
      | some signal =>
        modifyShell fun s =>
          let others := s.traps.filter (·.1 != signal)
          { s with traps := if action = ['-'] then others else (signal, action) :: others }
      | none => shellFails s!"trap: {toText name}: bad trap"
    return 0

/-! ### Loops and functions -/

/-- How many loops a command that leaves some is about. -/
def loopCount (command : String) (args : List Octets) : Run Nat := do
  let wanted ← match args with
    | [] => pure 1
    | arg :: _ => count command arg
  if wanted = 0 then shellFails s!"{command}: Illegal number: 0"
  else return min wanted (← shell).loops

/-- The status that a command gives in its argument, or else the last one. -/
def givenStatus (command : String) (args : List Octets) : Run Nat := do
  match args with
  | [] => return (← shell).status
  | arg :: _ => return (← count command arg) % 256

/-! ### All of them -/

/-- Writes what a format makes of arguments. -/
def printfCommand (args : List Octets) : Run Nat := do
  let args := if args.head? = some ['-', '-'] then args.tail else args
  match args with
  | [] => refuse "printf" "usage: printf format [arg ...]"
  | format :: args =>
    let (cs, complaints) := Format.fill false format args
    write 1 cs
    let texts := complaints.filterMap Format.Complaint.inShell?
    texts.forM fun text => shellComplains s!"printf: {text}"
    let isFatal := complaints.any fun
      | .badDirective _ => true
      | _ => false
    return if isFatal then 2 else if texts.isEmpty then 0 else 1

/-- Decides a condition. -/
def testCommand (command : String) (args : List Octets) : Run Nat := do
  match Condition.holds (← files) (← shell).dir args with
  | .ok true => return 0
  | .ok false => return 1
  | .error flaw => refuse command flaw.message

/-- Runs a command of the shell itself; none if there is none of this name. -/
def builtin (name : String) (args : List Octets) : Option (Run Nat) :=
  match name with
  | ":" | "true" | "times" => some (pure 0)
  | "false" => some (pure 1)
  | "exit" => some do throw (.exited (← givenStatus "exit" args))
  | "return" => some do throw (.returned (← givenStatus "return" args))
  | "break" => some do
    let n ← loopCount "break" args
    if n = 0 then return 0 else throw (.leaving n)
  | "continue" => some do
    let n ← loopCount "continue" args
    if n = 0 then return 0 else throw (.continuing n)
  | "echo" => some do
    let isBare := args.head? == some ['-', 'n']
    write 1 (echo isBare true (if isBare then args.tail else args))
    return 0
  | "printf" => some (printfCommand args)
  | "pwd" => some do
    write 1 (dirText (← shell).dir ++ ['\n'])
    return 0
  | "read" => some (readCommand args)
  | "cd" => some (cdCommand args)
  | "export" =>
    some (declare "export" (fun _ => pure ()) exportVariable (args.filter (· != ['-', 'p'])))
  | "readonly" =>
    some (declare "readonly" (fun _ => pure ()) fixVariable (args.filter (· != ['-', 'p'])))
  | "local" => some do
    if (← shell).isInFunction then declare "local" saveVariable (fun _ => pure ()) args
    else shellFails "local: not in a function"
  | "unset" => some (unsetCommand args)
  | "shift" => some do
    let n ← match args with
      | [] => pure 1
      | arg :: _ => count "shift" arg
    if (← shell).args.length < n then shellFails "shift: can't shift that many"
    modifyShell fun s => { s with args := s.args.drop n }
    return 0
  | "set" => some (setCommand (args.length + 1) args)
  | "trap" => some (trapCommand args)
  | "umask" => some do
    if args.isEmpty then write 1 "0022\n".toList
    return 0
  | "wait" => some do
    modify fun m => { m with now := max m.now m.heldUntil }
    return if args.all (· == asideNumber) then 0 else 127
  | "test" => some (testCommand "test" args)
  | "[" => some do
    if args.getLast? = some [']'] then testCommand "[" args.dropLast
    else refuse "[" "missing ]"
  | _ => none

end Run

end Shell

end ToolRelay
