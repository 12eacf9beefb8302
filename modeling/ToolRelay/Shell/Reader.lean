import ToolRelay.Shell.Plan

/-!
# Reading shell scripts

`Source.next` reads the next command of a script as a `Plan`, up to the end of its line: lists,
pipes, compound commands, functions, quoting, expansions and redirections.  Every recursion is
bounded by fuel, of which there is four times as much as the script is long.
-/

namespace ToolRelay

namespace Shell

/-- What is ahead in a script. -/
structure Source where
  /-- The octets ahead. -/
  rest : Octets
  /-- The number of the current line. -/
  line : Nat

/-- Why a script cannot be read. -/
structure Mistake where
  /-- The line. -/
  line : Nat
  /-- What is wrong. -/
  text : String
  deriving DecidableEq, Repr

/-- A computation that goes through a script. -/
abbrev Reader (α : Type) := StateT Source (Except Mistake) α

namespace Reader

/-- No outcome. -/
def refuse {α : Type} (text : String) : Reader α := fun s => .error ⟨s.line, text⟩

/-- No outcome, because there is no more fuel. -/
def tooDeep {α : Type} : Reader α := refuse "Stack overflow"

/-- The octets ahead. -/
def ahead : Reader Octets := do return (← get).rest

/-- Goes past the next octets. -/
def skip : (n : Nat) → Reader Unit
  | 0 => pure ()
  | n + 1 => do
    match ← get with
    | ⟨'\n' :: rest, line⟩ => set (Source.mk rest (line + 1))
    | ⟨_ :: rest, line⟩ => set (Source.mk rest line)
    | ⟨[], _⟩ => pure ()
    skip n

/-- Whether the given octets are ahead; if so, goes past them. -/
def accept (cs : Octets) : Reader Bool := do
  if cs.isPrefixOf (← ahead) then
    skip cs.length
    return true
  else return false

/-- Goes past the next octets that satisfy `p`. -/
def takeWhile (p : Char → Bool) : Reader Octets := do
  let cs := (← ahead).takeWhile p
  skip cs.length
  return cs

/-- Whether an octet ends a word. -/
def isDelimiter (c : Char) : Bool := " \t\n;&|<>()".toList.contains c

/-- Whether an octet may stand in a name. -/
def isNameChar (c : Char) : Bool := c.isAlphanum || c == '_'

/-- Goes past blanks, joined lines and a comment; `fuel` of them at most. -/
def blanksUpTo : (fuel : Nat) → Reader Unit
  | 0 => pure ()
  | fuel + 1 => do
    match ← ahead with
    | ' ' :: _ | '\t' :: _ => skip 1; blanksUpTo fuel
    | '\\' :: '\n' :: _ => skip 2; blanksUpTo fuel
    | '#' :: _ => let _ ← takeWhile (· != '\n')
    | _ => pure ()

/-- Goes past blanks, joined lines and a comment. -/
def blanks : Reader Unit := do blanksUpTo ((← ahead).length + 1)

/-- Goes past blanks, comments and line breaks; `fuel` of them at most. -/
def gapUpTo : (fuel : Nat) → Reader Unit
  | 0 => pure ()
  | fuel + 1 => do
    blanks
    if ← accept ['\n'] then gapUpTo fuel

/-- Goes past blanks, comments and line breaks. -/
def gap : Reader Unit := do gapUpTo ((← ahead).length + 1)

/-- The unquoted word ahead, for telling reserved words. -/
def bareWord : Reader Octets := do
  return (← ahead).takeWhile fun c => !isDelimiter c && !"'\"\\$".toList.contains c

/-- The words that end a list of commands. -/
def closers : List Octets :=
  ["then", "else", "elif", "fi", "do", "done", "esac", "\x7d"].map String.toList

/-- The words that begin or divide compound commands. -/
def reservedWords : List Octets :=
  closers ++ ["!", "case", "for", "if", "in", "until", "while", "\x7b"].map String.toList

/-- Whether a list of commands ends here. -/
def atEnd : Reader Bool := do
  blanks
  match ← ahead with
  | [] => return true
  | ')' :: _ => return true
  | ';' :: ';' :: _ => return true
  | _ => return closers.contains (← bareWord)

/-- What is ahead, in words; `isCommand` tells whether a command could begin here. -/
def tokenAhead (isCommand : Bool) : Reader String := do
  blanks
  let word ← bareWord
  match ← ahead with
  | [] => return "end of file"
  | '\n' :: _ => return "newline"
  | ';' :: ';' :: _ => return "\";;\""
  | '&' :: '&' :: _ => return "\"&&\""
  | '|' :: '|' :: _ => return "\"||\""
  | c :: _ =>
    if ";&|()".toList.contains c then return String.ofList ['"', c, '"']
    else if c = '<' ∨ c = '>' then return "redirection"
    else if isCommand && reservedWords.contains word then return "\"" ++ String.ofList word ++ "\""
    else return "word"

/-- No outcome, because what is ahead cannot stand here. -/
def unexpected {α : Type} : Reader α := do
  refuse ("Syntax error: " ++ (← tokenAhead true) ++ " unexpected")

/-- No outcome, because something else must stand here. -/
def unexpectedFor {α : Type} (isCommand : Bool) (due : String) : Reader α := do
  let token ← tokenAhead isCommand
  refuse ("Syntax error: " ++ token ++ " unexpected (expecting \"" ++ due ++ "\")")

/-- Goes past a reserved word, which must be ahead. -/
def reserved (s : String) : Reader Unit := do
  gap
  if (← bareWord) = s.toList then skip s.length else unexpectedFor true s

/-- Goes past a closing bracket, which must be ahead; `isCommand` tells whether a command could
begin there. -/
def closeBracket (isCommand : Bool) : Reader Unit := do
  gap
  if ← accept [')'] then pure () else unexpectedFor isCommand ")"

/-- The name of a parameter after its `$`, if there is one. -/
def parameterName : Reader (Option Octets) := do
  match ← ahead with
  | [] => return none
  | c :: _ =>
    if "@*#?$!".toList.contains c ∨ c.isDigit = true then
      skip 1
      return some [c]
    else
      match ← takeWhile isNameChar with
      | [] => return none
      | name => return some name

/-- Octets up to the quote that ends them, which is gone past. -/
def quotedLiteral : Reader Octets := do
  let cs := (← ahead).takeWhile (· != '\'')
  if cs.length = (← ahead).length then refuse "Syntax error: Unterminated quoted string"
  else
    skip (cs.length + 1)
    return cs

/-- The text of a command between backquotes, where a backslash protects the octet after it: a
backslash, a dollar sign, a backquote, and inside double quotes a double quote. -/
def backquoted (isQuoted : Bool) : Octets → Octets
  | '\\' :: c :: rest =>
    if "\\$\u0060".toList.contains c || (isQuoted && c == '"') then c :: backquoted isQuoted rest
    else '\\' :: c :: backquoted isQuoted rest
  | c :: rest => c :: backquoted isQuoted rest
  | [] => []

/-- How many octets come before the backquote that ends a command. -/
def backquotedLength : Octets → Nat
  | '\\' :: _ :: rest => backquotedLength rest + 2
  | c :: rest => if c = '\u0060' then 0 else backquotedLength rest + 1
  | [] => 0

/-- The number that digits spell. -/
def natOf (digits : Octets) : Nat := digits.foldl (fun n c => n * 10 + (c.toNat - 0x30)) 0

/-- The descriptor that a redirection changes, if one is ahead. -/
def redirectionAhead : Reader (Option Nat) := do
  let cs ← ahead
  let digits := cs.takeWhile Char.isDigit
  match cs.drop digits.length with
  | '<' :: _ => return some (if digits.isEmpty then 0 else natOf digits)
  | '>' :: _ => return some (if digits.isEmpty then 1 else natOf digits)
  | _ => return none

/-- The lines of a document up to the one that ends it, and what follows; `fuel` of them at
most. -/
def documentLines (withoutTabs : Bool) (delimiter : Octets) : (fuel : Nat) → Octets →
    Octets × Octets
  | 0, cs => ([], cs)
  | fuel + 1, cs =>
    let line := cs.takeWhile (· != '\n')
    let rest := cs.drop line.length
    let shown := if withoutTabs then line.dropWhile (· == '\t') else line
    if shown = delimiter then ([], rest.drop 1)
    else
      match rest with
      | [] => (shown, [])
      | _ :: rest =>
        let (more, after) := documentLines withoutTabs delimiter fuel rest
        (shown ++ '\n' :: more, after)

/-- Takes the document that begins on the next line. -/
def document (withoutTabs : Bool) (delimiter : Octets) : Reader Octets := do
  let ⟨rest, line⟩ ← get
  let here := rest.takeWhile (· != '\n')
  let (content, after) :=
    documentLines withoutTabs delimiter (rest.length + 1) (rest.drop (here.length + 1))
  set (Source.mk (here ++ (if after.isEmpty then [] else '\n' :: after)) line)
  return content

/-- The octets of pieces that are all literal. -/
def literalOf (word : Word) : Octets :=
  word.flatMap fun
    | .literal cs _ => cs
    | _ => []

/-- Whether a part of a word is quoted. -/
def hasQuotes (word : Word) : Bool :=
  word.any fun
    | .literal _ quoted => quoted
    | _ => false

/-- How an operator after the name of a parameter changes the value. -/
def change : Reader (Option Change) := do
  let orEmpty ← accept [':']
  if ← accept ['-'] then return some (.orElse orEmpty)
  else if ← accept ['='] then return some (.orAssign orEmpty)
  else if ← accept ['+'] then return some (.instead orEmpty)
  else if ← accept ['?'] then return some (.orFail orEmpty)
  else if orEmpty then return none
  else if ← accept ['#', '#'] then return some (.withoutStart true)
  else if ← accept ['#'] then return some (.withoutStart false)
  else if ← accept ['%', '%'] then return some (.withoutEnd true)
  else if ← accept ['%'] then return some (.withoutEnd false)
  else return some .same

/-! ### Words and commands -/

mutual

/-- A word; nothing if none is ahead. -/
def word : (fuel : Nat) → Reader Word
  | 0 => tooDeep
  | fuel + 1 => do
    match ← ahead with
    | [] => return []
    | '\'' :: _ =>
      skip 1
      let cs ← quotedLiteral
      return .literal cs true :: (← word fuel)
    | '"' :: _ =>
      skip 1
      let inner ← quoted fuel
      let isAllArguments := match inner with
        | [.parameter ['@'] .same _ _] => true
        | _ => false
      if isAllArguments then return inner ++ (← word fuel)
      else return .literal [] true :: inner ++ (← word fuel)
    | '\\' :: '\n' :: _ => skip 2; word fuel
    | '\\' :: c :: _ => skip 2; return .literal [c] true :: (← word fuel)
    | ['\\'] => skip 1; return [.literal ['\\'] true]
    | '$' :: _ =>
      let first ← dollar fuel false
      return first :: (← word fuel)
    | '\u0060' :: _ =>
      let first ← dollar fuel false
      return first :: (← word fuel)
    | c :: _ =>
      if isDelimiter c then return []
      else
        let cs ← takeWhile fun c => !isDelimiter c && !"'\"\\$\u0060".toList.contains c
        return .literal cs false :: (← word fuel)

/-- The pieces of a word in double quotes up to the quote that ends them. -/
def quoted : (fuel : Nat) → Reader (List Piece)
  | 0 => tooDeep
  | fuel + 1 => do
    match ← ahead with
    | [] => refuse "Syntax error: Unterminated quoted string"
    | '"' :: _ => skip 1; return []
    | '\\' :: '\n' :: _ => skip 2; quoted fuel
    | '\\' :: c :: _ =>
      skip 2
      let cs := if "$\u0060\"\\".toList.contains c then [c] else ['\\', c]
      return .literal cs true :: (← quoted fuel)
    | '\\' :: [] => skip 1; quoted fuel
    | '$' :: _ =>
      let first ← dollar fuel true
      return first :: (← quoted fuel)
    | '\u0060' :: _ =>
      let first ← dollar fuel true
      return first :: (← quoted fuel)
    | _ =>
      let cs ← takeWhile fun c => !"\"\\$\u0060".toList.contains c
      return .literal cs true :: (← quoted fuel)

/-- The pieces of a document. -/
def documentText : (fuel : Nat) → Reader (List Piece)
  | 0 => tooDeep
  | fuel + 1 => do
    match ← ahead with
    | [] => return []
    | '\\' :: '\n' :: _ => skip 2; documentText fuel
    | '\\' :: c :: _ =>
      skip 2
      let cs := if "$\u0060\\".toList.contains c then [c] else ['\\', c]
      return .literal cs true :: (← documentText fuel)
    | '\\' :: [] => skip 1; return [.literal ['\\'] true]
    | '$' :: _ =>
      let first ← dollar fuel true
      return first :: (← documentText fuel)
    | '\u0060' :: _ =>
      let first ← dollar fuel true
      return first :: (← documentText fuel)
    | _ =>
      let cs ← takeWhile fun c => !"\\$\u0060".toList.contains c
      return .literal cs true :: (← documentText fuel)

/-- An expansion. -/
def dollar : (fuel : Nat) → (isQuoted : Bool) → Reader Piece
  | 0, _ => tooDeep
  | fuel + 1, isQuoted => do
    if ← accept ['\u0060'] then
      let text := (← ahead).take (backquotedLength (← ahead))
      skip text.length
      if !(← accept ['\u0060']) then refuse "Syntax error: EOF in backquote substitution"
      let line := (← get).line
      let (plan, _) ← (list fuel ⟨backquoted isQuoted text, line⟩ : Except Mistake (Plan × Source))
      return .output plan isQuoted
    skip 1
    if ← accept ['(', '('] then
      return .number (← expression fuel 0) isQuoted
    else if ← accept ['('] then
      let plan ← list fuel
      closeBracket true
      return .output plan isQuoted
    else if ← accept ['\x7b'] then parameterInBraces fuel isQuoted
    else
      match ← parameterName with
      | some name => return .parameter name .same [] isQuoted
      | none => return .literal ['$'] isQuoted

/-- A parameter after its opening brace. -/
def parameterInBraces : (fuel : Nat) → (isQuoted : Bool) → Reader Piece
  | 0, _ => tooDeep
  | fuel + 1, isQuoted => do
    let isLength := match ← ahead with
      | '#' :: c :: _ => c != '\x7d'
      | _ => false
    if isLength then skip 1
    match ← parameterName with
    | none => refuse "Bad substitution"
    | some name =>
      let name := name ++ (← if name.all Char.isDigit then takeWhile Char.isDigit else pure [])
      let found ← if isLength then pure (some Change.length) else change
      match found with
      | none => refuse "Bad substitution"
      | some found =>
        let next := (← ahead).head?
        let takesNone := found = .same || found = .length
        if takesNone && next.isSome && next != some '\x7d' then refuse "Bad substitution"
        let word ← braced fuel isQuoted
        return .parameter name found word isQuoted

/-- The word before a closing brace, which is gone past. -/
def braced : (fuel : Nat) → (isQuoted : Bool) → Reader Word
  | 0, _ => tooDeep
  | fuel + 1, isQuoted => do
    match ← ahead with
    | [] => refuse "Syntax error: Missing '\x7d'"
    | '\x7d' :: _ => skip 1; return []
    | '\'' :: _ =>
      if isQuoted then
        skip 1
        return .literal ['\''] true :: (← braced fuel isQuoted)
      else
        skip 1
        let cs ← quotedLiteral
        return .literal cs true :: (← braced fuel isQuoted)
    | '"' :: _ =>
      skip 1
      let inner ← quoted fuel
      return .literal [] true :: inner ++ (← braced fuel isQuoted)
    | '\\' :: c :: _ => skip 2; return .literal [c] true :: (← braced fuel isQuoted)
    | '$' :: _ =>
      let first ← dollar fuel isQuoted
      return first :: (← braced fuel isQuoted)
    | '\u0060' :: _ =>
      let first ← dollar fuel isQuoted
      return first :: (← braced fuel isQuoted)
    | c :: _ => skip 1; return .literal [c] false :: (← braced fuel isQuoted)

/-- An arithmetic expression, inside `depth` brackets, up to the brackets that end it. -/
def expression : (fuel depth : Nat) → Reader (List Piece)
  | 0, _ => tooDeep
  | fuel + 1, depth => do
    if depth = 0 then
      if ← accept [')', ')'] then return []
    match ← ahead with
    | [] => refuse "Syntax error: Missing '))'"
    | '$' :: _ =>
      let first ← dollar fuel true
      return first :: (← expression fuel depth)
    | '\u0060' :: _ =>
      let first ← dollar fuel true
      return first :: (← expression fuel depth)
    | c :: _ =>
      skip 1
      let depth := if c = '(' then depth + 1 else if c = ')' then depth - 1 else depth
      return .literal [c] true :: (← expression fuel depth)

/-- A redirection of the given descriptor. -/
def redirection : (fuel descriptor : Nat) → Reader Redirection
  | 0, _ => tooDeep
  | fuel + 1, descriptor => do
    let _ ← takeWhile Char.isDigit
    let outward ← accept ['>']
    if !outward then skip 1
    if ← accept ['&'] then
      if ← accept ['-'] then return .close descriptor
      let digits ← takeWhile Char.isDigit
      if digits.isEmpty then refuse "Syntax error: Bad fd number"
      else return .duplicate descriptor (natOf digits)
    else if outward then
      let appends ← accept ['>']
      let _ ← if appends then pure true else accept ['|']
      blanks
      match ← word fuel with
      | [] => unexpected
      | target => return .writeTo descriptor appends target
    else if ← accept ['<'] then
      let withoutTabs ← accept ['-']
      blanks
      let delimiter ← word fuel
      if delimiter.isEmpty then unexpected
      let content ← document withoutTabs (literalOf delimiter)
      if hasQuotes delimiter then return .readText descriptor [.literal content true]
      else
        let line := (← get).line
        let (pieces, _) ← (documentText fuel ⟨content, line⟩ : Except Mistake (Word × Source))
        return .readText descriptor (.literal [] true :: pieces)
    else
      blanks
      match ← word fuel with
      | [] => unexpected
      | target => return .readFrom descriptor target

/-- The redirections ahead. -/
def redirections : (fuel : Nat) → Reader (List Redirection)
  | 0 => tooDeep
  | fuel + 1 => do
    blanks
    match ← redirectionAhead with
    | none => return []
    | some descriptor =>
      let first ← redirection fuel descriptor
      return first :: (← redirections fuel)

/-- The rest of a simple command: assignments, words and redirections. -/
def simpleRest : (fuel : Nat) → (started : Bool) →
    Reader (List (Octets × Word) × List Word × List Redirection)
  | 0, _ => tooDeep
  | fuel + 1, started => do
    blanks
    match ← redirectionAhead with
    | some descriptor =>
      let first ← redirection fuel descriptor
      let (assignments, words, others) ← simpleRest fuel started
      return (assignments, words, first :: others)
    | none =>
      let cs ← ahead
      let name := cs.takeWhile isNameChar
      let isAssignment := !started && !name.isEmpty && !(name.headD '0').isDigit &&
        (cs.drop name.length).head? == some '='
      if isAssignment then
        skip (name.length + 1)
        let value ← word fuel
        let (assignments, words, others) ← simpleRest fuel started
        return ((name, value) :: assignments, words, others)
      else
        match ← word fuel with
        | [] => return ([], [], [])
        | first =>
          let (assignments, words, others) ← simpleRest fuel true
          return (assignments, first :: words, others)

/-- Several words up to the end of a command. -/
def words : (fuel : Nat) → Reader (List Word)
  | 0 => tooDeep
  | fuel + 1 => do
    blanks
    match ← word fuel with
    | [] => return []
    | first => return first :: (← words fuel)

/-- The parts of a conditional command after its first word. -/
def conditional : (fuel : Nat) → Reader Plan
  | 0 => tooDeep
  | fuel + 1 => do
    let test ← list fuel
    reserved "then"
    let body ← list fuel
    gap
    match String.ofList (← bareWord) with
    | "elif" => skip 4; return .choose test body (← conditional fuel)
    | "else" =>
      skip 4
      let otherwise ← list fuel
      reserved "fi"
      return .choose test body otherwise
    | _ => reserved "fi"; return .choose test body .nothing

/-- The body of a loop. -/
def loopBody : (fuel : Nat) → Reader Plan
  | 0 => tooDeep
  | fuel + 1 => do
    reserved "do"
    let body ← list fuel
    reserved "done"
    return body

/-- The patterns of a case up to the bracket that ends them. -/
def patterns : (fuel : Nat) → Reader (List Word)
  | 0 => tooDeep
  | fuel + 1 => do
    blanks
    let first ← word fuel
    if first.isEmpty then unexpectedFor false ")"
    else
      blanks
      if ← accept ['|'] then return first :: (← patterns fuel)
      else
        closeBracket false
        return [first]

/-- The cases of a selection and the word that ends them. -/
def cases : (fuel : Nat) → Reader (List (List Word × Plan))
  | 0 => tooDeep
  | fuel + 1 => do
    gap
    if (← bareWord) = "esac".toList then
      skip 4
      return []
    else
      let _ ← accept ['(']
      let found ← patterns fuel
      let body ← list fuel
      gap
      if ← accept [';', ';'] then return (found, body) :: (← cases fuel)
      else if (← bareWord) = "esac".toList then
        skip 4
        return [(found, body)]
      else unexpectedFor true ";;"

/-- A command with its redirections. -/
def command : (fuel : Nat) → Reader Plan
  | 0 => tooDeep
  | fuel + 1 => do
    blanks
    if ← accept ['('] then
      let body ← list fuel
      closeBracket true
      return .redirected (.subshell body) (← redirections fuel)
    let first ← bareWord
    match String.ofList first with
    | "\x7b" =>
      skip 1
      let body ← list fuel
      reserved "\x7d"
      return .redirected body (← redirections fuel)
    | "if" => skip 2; return .redirected (← conditional fuel) (← redirections fuel)
    | "while" =>
      skip 5
      let test ← list fuel
      let body ← loopBody fuel
      return .redirected (.loop false test body) (← redirections fuel)
    | "until" =>
      skip 5
      let test ← list fuel
      let body ← loopBody fuel
      return .redirected (.loop true test body) (← redirections fuel)
    | "for" =>
      skip 3
      blanks
      let name ← takeWhile isNameChar
      if name.isEmpty || (name.headD '0').isDigit then
        refuse "Syntax error: Bad for loop variable"
      gap
      let items ←
        if (← bareWord) = "in".toList then
          skip 2
          words fuel
        else pure [[.parameter ['@'] .same [] true]]
      let _ ← accept [';']
      let body ← loopBody fuel
      return .redirected (.each name items body) (← redirections fuel)
    | "case" =>
      skip 4
      blanks
      let subject ← word fuel
      reserved "in"
      return .redirected (.select subject (← cases fuel)) (← redirections fuel)
    | _ =>
      let isName := !first.isEmpty && first.all isNameChar && !reservedWords.contains first
      let follows := ((← ahead).drop first.length).dropWhile fun c => c == ' ' || c == '\t'
      if reservedWords.contains first then unexpected
      else if isName && follows.head? == some '(' then
        skip first.length
        blanks
        skip 1
        closeBracket false
        gap
        return .define first (← command fuel)
      else
        let line := (← get).line
        let (assignments, words, others) ← simpleRest fuel false
        if assignments.isEmpty && words.isEmpty && others.isEmpty then unexpected
        else return .simple line assignments words others

/-- Commands joined by pipes. -/
def pipeline : (fuel : Nat) → Reader Plan
  | 0 => tooDeep
  | fuel + 1 => do
    blanks
    if (← bareWord) = ['!'] then
      skip 1
      return .negate (← pipeline fuel)
    let first ← command fuel
    blanks
    match ← ahead with
    | '|' :: '|' :: _ => return first
    | '|' :: _ =>
      skip 1
      gap
      if (← bareWord) = ['!'] then unexpected
      else return .pipe first (← pipeline fuel)
    | _ => return first

/-- What follows `first` in a list that depends on success and failure. -/
def conditionalRest : (fuel : Nat) → (first : Plan) → Reader Plan
  | 0, _ => tooDeep
  | fuel + 1, first => do
    blanks
    if ← accept ['&', '&'] then
      gap
      conditionalRest fuel (.andThen first (← pipeline fuel))
    else if ← accept ['|', '|'] then
      gap
      conditionalRest fuel (.orElse first (← pipeline fuel))
    else return first

/-- A list of commands up to a word or bracket that ends it. -/
def list : (fuel : Nat) → Reader Plan
  | 0 => tooDeep
  | fuel + 1 => do
    gap
    if ← atEnd then return .nothing
    let first ← conditionalRest fuel (← pipeline fuel)
    blanks
    match ← ahead with
    | '&' :: _ => skip 1; return .sequence (.background first) (← list fuel)
    | ';' :: ';' :: _ => return first
    | ';' :: _ => skip 1; return .sequence first (← list fuel)
    | '\n' :: _ => return .sequence first (← list fuel)
    | _ => return first

/-- The commands of a line. -/
def line : (fuel : Nat) → Reader Plan
  | 0 => tooDeep
  | fuel + 1 => do
    let first ← conditionalRest fuel (← pipeline fuel)
    blanks
    let next ← ahead
    let first ←
      if next.head? == some '&' then
        skip 1
        pure (.background first)
      else if next.head? == some ';' && next.tail.head? != some ';' then
        skip 1
        pure first
      else pure first
    blanks
    match ← ahead with
    | [] | '\n' :: _ => return first
    | rest =>
      if rest.length = next.length then unexpected else return .sequence first (← line fuel)

end

end Reader

/-- The commands of the next line that has any, and what is ahead after them; nothing at the end of
the script. -/
def Source.next (s : Source) : Except Mistake (Option (Plan × Source)) := do
  let ((), s) ← Reader.gap s
  if s.rest.isEmpty then return none
  else return some (← Reader.line (4 * s.rest.length + 16) s)

end Shell

end ToolRelay
