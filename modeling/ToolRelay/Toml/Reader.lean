import ToolRelay.Text.Cursor
import ToolRelay.Toml.Document
import ToolRelay.Toml.Moment
import ToolRelay.Toml.Number

/-!
# Reading TOML text

A reader goes through a text from a `Text.Cursor` and has no outcome where the text is not TOML.
`Toml.parse?` reads a whole document.
-/

namespace ToolRelay

namespace Toml

/-- A computation that goes through a text. -/
abbrev Reader (α : Type) := StateT Text.Cursor Option α

namespace Reader

/-- No outcome. -/
def refuse {α : Type} : Reader α := fun _ => none

/-- The next character, which stays ahead. -/
def peek : Reader (Option Char) := fun c => some (c.rest.head?, c)

/-- Goes past the next `n` characters. -/
def skip (n : Nat) : Reader Unit := fun c => some ((), c.skip n)

/-- Where the reader is. -/
def index : Reader Nat := fun c => some (c.index, c)

/-- How many characters are ahead, and one more. -/
def room : Reader Nat := fun c => some (c.rest.length + 1, c)

/-- Whether the given characters are ahead; if so, goes past them. -/
def accept (cs : List Char) : Reader Bool := fun c =>
  if cs.isPrefixOf c.rest then some (true, c.skip cs.length) else some (false, c)

/-- Goes past the given characters, which must be ahead. -/
def expect (cs : List Char) : Reader Unit := do
  if ← accept cs then pure () else refuse

/-- Goes past the next characters that satisfy `p`. -/
def takeWhile (p : Char → Bool) : Reader (List Char) := fun c =>
  let cs := c.rest.takeWhile p
  some (cs, c.skip cs.length)

/-! ### Between the values -/

/-- Whether a character is a control character that may not stand in a text or comment. -/
def isControl (c : Char) : Bool := (c.toNat < 0x20 && c != '\t') || c.toNat == 0x7F

/-- Whether a character is blank within a line. -/
def isBlank (c : Char) : Bool := c == ' ' || c == '\t'

/-- Goes past blanks. -/
def blanks : Reader Unit := do let _ ← takeWhile isBlank

/-- Goes past a line break, if one is ahead. -/
def lineBreak : Reader Bool := do
  if ← accept ['\n'] then return true
  else accept ['\r', '\n']

/-- Goes past a comment, if one is ahead. -/
def comment : Reader Unit := do
  if ← accept ['#'] then
    let _ ← takeWhile (!isControl ·)

/-- Goes past the rest of a line that says nothing more. -/
def lineEnd : Reader Unit := do
  blanks
  comment
  match ← peek with
  | none => pure ()
  | some _ => if ← lineBreak then pure () else refuse

/-- Goes past blanks, comments and line breaks; `fuel` of them at most. -/
def gapUpTo : (fuel : Nat) → Reader Unit
  | 0 => pure ()
  | fuel + 1 => do
    blanks
    comment
    if ← lineBreak then gapUpTo fuel

/-- Goes past blanks, comments and line breaks. -/
def gap : Reader Unit := do gapUpTo (← room)

/-! ### Texts -/

/-- The character that a letter means after a backslash. -/
def simpleEscape? (c : Char) : Option Char :=
  match c with
  | '"' => some '"'
  | '\\' => some '\\'
  | 'b' => some '\x08'
  | 'e' => some '\x1b'
  | 'f' => some '\x0c'
  | 'n' => some '\n'
  | 'r' => some '\r'
  | 't' => some '\t'
  | _ => none

/-- How many hexadecimal digits a letter asks for after a backslash. -/
def escapeLength? (c : Char) : Option Nat :=
  match c with
  | 'x' => some 2
  | 'u' => some 4
  | 'U' => some 8
  | _ => none

/-- The character with the given number. -/
def ofCode? (n : Nat) : Option Char := if n.isValidChar then some (Char.ofNat n) else none

/-- The character that an escape stands for, after its backslash. -/
def escape : Reader Char := do
  match ← peek with
  | none => refuse
  | some c =>
    skip 1
    match simpleEscape? c, escapeLength? c with
    | some x, _ => return x
    | none, none => refuse
    | none, some n => do
      let here ← get
      let digits ← ((here.rest.take n).mapM (Number.digitValue? 16) : Option (List Nat))
      if digits.length < n then refuse
      else
        skip n
        ofCode? (Number.ofDigits 16 digits)

/-- The rest of a text in double quotes on one line; `done` holds the characters read so far, last
first. -/
def basicRest : (fuel : Nat) → (done : List Char) → Reader String
  | 0, _ => refuse
  | fuel + 1, done => do
    match ← peek with
    | none => refuse
    | some '"' => skip 1; return String.ofList done.reverse
    | some '\\' => skip 1; basicRest fuel ((← escape) :: done)
    | some c => if isControl c then refuse else do skip 1; basicRest fuel (c :: done)

/-- A text in single quotes on one line, after the first quote. -/
def literalRest : Reader String := do
  let cs ← takeWhile fun c => c != '\'' && !isControl c
  expect ['\'']
  return String.ofList cs

/-- The end of a text of several lines, if it is ahead: three quotes, and before them up to two
that belong to the text, which are the result. -/
def closing (quote : Char) : Reader (Option (List Char)) := fun c =>
  let quotes := (c.rest.takeWhile (· == quote)).length
  if quotes < 3 then some (none, c)
  else
    let own := min (quotes - 3) 2
    some (some (List.replicate own quote), c.skip (own + 3))

/-- Whether a backslash ends its line; if so, goes past the line breaks and blanks after it. -/
def continuedLine : Reader Bool := do
  let start ← get
  blanks
  if ← lineBreak then
    let _ ← takeWhile fun c => isBlank c || c == '\n' || c == '\r'
    return true
  else
    set start
    return false

/-- The rest of a text of several lines; `done` holds the characters read so far, last first. -/
def longRest (quote : Char) : (fuel : Nat) → (done : List Char) → Reader String
  | 0, _ => refuse
  | fuel + 1, done => do
    match ← closing quote with
    | some own => return String.ofList (done.reverse ++ own)
    | none =>
      match ← peek with
      | none => refuse
      | some '\n' => skip 1; longRest quote fuel ('\n' :: done)
      | some '\r' => expect ['\r', '\n']; longRest quote fuel ('\n' :: '\r' :: done)
      | some c =>
        if isControl c then refuse
        else do
          skip 1
          if c = '\\' ∧ quote = '"' then
            if ← continuedLine then longRest quote fuel done
            else longRest quote fuel ((← escape) :: done)
          else longRest quote fuel (c :: done)

/-- A text of several lines, after the three quotes that open it. -/
def long (quote : Char) : Reader String := do
  let _ ← lineBreak
  longRest quote (← room) []

/-! ### Names -/

/-- Whether a character may stand in a name without quotes. -/
def isBare (c : Char) : Bool := c.isAlphanum || c == '_' || c == '-'

/-- A name. -/
def key : Reader Key := do
  let start ← index
  let name ← do
    if ← accept ['"'] then basicRest (← room) []
    else if ← accept ['\''] then literalRest
    else
      let cs ← takeWhile isBare
      if cs.isEmpty then refuse else pure (String.ofList cs)
  return ⟨name, start, ← index⟩

/-- What follows the first name of a dotted name. -/
def pathRest : (fuel : Nat) → Reader (List Key)
  | 0 => refuse
  | fuel + 1 => do
    blanks
    if ← accept ['.'] then
      blanks
      let first ← key
      return first :: (← pathRest fuel)
    else return []

/-- A dotted name and the blanks after it. -/
def path : Reader (List Key) := do
  let first ← key
  return first :: (← pathRest (← room))

/-! ### Values -/

/-- The value that a word without quotes spells. -/
def wordValue? (cs : List Char) : Option Scalar :=
  if cs = ['t', 'r', 'u', 'e'] then some (.bool true)
  else if cs = ['f', 'a', 'l', 's', 'e'] then some (.bool false)
  else
    match Number.integer? cs, Number.real? cs with
    | some n, _ => some (.integer n)
    | none, some x => some (.real x)
    | none, none =>
      if Moment.isMoment cs then some (.moment (String.ofList cs)) else none

/-- Whether a character may stand in a word without quotes. -/
def isWord (c : Char) : Bool := c.isAlphanum || ['_', '-', '+', '.', ':'].contains c

/-- A word without quotes; a blank between a date and a time belongs to it. -/
def word : Reader (List Char) := do
  let first ← takeWhile isWord
  match Moment.date? first, (← get).rest with
  | some [], ' ' :: c :: _ =>
    if c.isDigit then
      skip 1
      return first ++ ' ' :: (← takeWhile isWord)
    else return first
  | _, _ => return first

/-- A value without parts. -/
def scalar : Reader Scalar := do
  if ← accept ['"', '"', '"'] then return .text (← long '"')
  else if ← accept ['\'', '\'', '\''] then return .text (← long '\'')
  else if ← accept ['"'] then return .text (← basicRest (← room) [])
  else if ← accept ['\''] then return .text (← literalRest)
  else wordValue? (← word)

/-- The items of an array or of a table in braces up to `close`, after the bracket. -/
def items {α : Type} (item : Reader α) (close : Char) : (fuel : Nat) → Reader (List α)
  | 0 => refuse
  | fuel + 1 => do
    gap
    if ← accept [close] then return []
    else
      let a ← item
      gap
      if ← accept [','] then return a :: (← items item close fuel)
      else
        expect [close]
        return [a]

/-- A dotted name and its value, read by `value`. -/
def entry (value : Reader Toml) : Reader (List Key × Toml) := do
  let names ← path
  expect ['=']
  blanks
  return (names, ← value)

/-- How many arrays and tables in braces may lie inside each other. -/
def maxDepth : Nat := 80

/-- A value with at most `depth` arrays and tables in braces inside each other. -/
def value : (depth : Nat) → Reader Toml
  | 0 => do
    let start ← index
    let s ← scalar
    return .scalar ⟨start, ← index⟩ s
  | depth + 1 => do
    let start ← index
    if ← accept ['['] then
      let inner ← items (value depth) ']' (← room)
      return .array ⟨start, ← index⟩ false inner
    else if ← accept ['\x7b'] then
      let inner ← items (entry (value depth)) '\x7d' (← room)
      inlineTable? ⟨start, ← index⟩ inner
    else
      let s ← scalar
      return .scalar ⟨start, ← index⟩ s

/-! ### A whole document -/

/-- The header of a table, without the rest of its line. -/
def header : Reader Statement := do
  let start ← index
  let ofArray ← accept ['[', '[']
  if !ofArray then expect ['[']
  blanks
  let names ← path
  expect (if ofArray then [']', ']'] else [']'])
  return .header ⟨start, ← index⟩ ofArray names

/-- The statements of a document. -/
def statements : (fuel : Nat) → Reader (List Statement)
  | 0 => refuse
  | fuel + 1 => do
    gap
    match ← peek with
    | none => return []
    | some c => do
      let first ←
        if c = '[' then header
        else do
          let (names, v) ← entry (value maxDepth)
          pure (.entry names v)
      lineEnd
      return first :: (← statements fuel)

/-- A document. -/
def document : Reader (List Statement) := do
  let _ ← accept ['\uFEFF']
  statements (← room)

end Reader

/-- The table that a text describes, if it is TOML. -/
def parse? (s : String) : Option Toml := do
  let (statements, finish) ← Reader.document (Text.Cursor.start s)
  let members ← Members.ofStatements? statements
  return .table ⟨0, finish.index⟩ .header members

end Toml

end ToolRelay
