import ToolRelay.Json.Basic
import ToolRelay.Text.Quoted

/-!
# What can be wrong with structured data

A text can fail to be JSON, and a value can fail to have the shape that was asked for.  Both are a
`Complaint`; `Complaint.message` gives it in words.  A `Fault` is a complaint about a text,
with the place in it; `Fault.message` adds line and column.
-/

namespace ToolRelay

/-- The kind of a value that was found where another one was expected. -/
inductive Found where
  /-- The value `null`. -/
  | null
  /-- A truth value. -/
  | bool (b : Bool)
  /-- An integer. -/
  | int (n : Int)
  /-- A floating-point number, by its text. -/
  | real (text : String)
  /-- A text. -/
  | text (s : String)
  /-- A sequence. -/
  | sequence
  /-- Named values. -/
  | map
  deriving DecidableEq, Repr

/-- The found value in words. -/
def Found.message : Found → String
  | .null => "null"
  | .bool true => "boolean `true`"
  | .bool false => "boolean `false`"
  | .int n => "integer `" ++ toString n ++ "`"
  | .real t => "floating point `" ++ t ++ "`"
  | .text s => "string " ++ Text.quoted s
  | .sequence => "sequence"
  | .map => "map"

/-- What is wrong with a text or a value. -/
inductive Complaint where
  /-- The text ends inside an array. -/
  | endInArray
  /-- The text ends inside an object. -/
  | endInObject
  /-- The text ends inside a quoted text. -/
  | endInText
  /-- The text ends where a value is due. -/
  | endInValue
  /-- No colon after a name. -/
  | colonDue
  /-- Neither a comma nor the end of the array. -/
  | commaOrBracketDue
  /-- Neither a comma nor the end of the object. -/
  | commaOrBraceDue
  /-- A word other than `null`, `true` and `false`. -/
  | wordDue
  /-- No value begins like this. -/
  | valueDue
  /-- A backslash before a character that has no meaning after it. -/
  | badEscape
  /-- A malformed number. -/
  | badNumber
  /-- A number beyond the greatest one. -/
  | numberTooLarge
  /-- A control character inside quotes. -/
  | controlCharacter
  /-- A name without quotes. -/
  | nameDue
  /-- Half of a pair of code units, without the other half. -/
  | loneSurrogate
  /-- The second half of a pair of code units is due. -/
  | secondHalfDue
  /-- A comma before the end of an array or object. -/
  | trailingComma
  /-- Something after the end of the value. -/
  | trailingCharacters
  /-- Too many arrays and objects inside each other. -/
  | tooDeep
  /-- A value of another kind than expected. -/
  | wrongKind (found : Found) (expected : String)
  /-- A value of the right kind, but not one of the expected ones. -/
  | wrongValue (found : Found) (expected : String)
  /-- A sequence or map of the wrong length. -/
  | wrongLength (length : Nat) (expected : String)
  /-- A required field is not there. -/
  | missingField (name : String)
  /-- A field is there twice. -/
  | duplicateField (name : String)
  /-- A name that is not among the expected ones. -/
  | unknownName (name : String) (expected : List String)
  /-- A value that has none of several shapes, which have a name together. -/
  | noVariant (name : String)
  /-- A value that can name no choice. -/
  | choiceDue
  /-- A table where a choice with one entry is due. -/
  | singleEntryDue (found : Nat)
  /-- A table that should be empty is not. -/
  | emptyTableDue
  /-- An array that should be empty is not. -/
  | emptyArrayDue
  /-- A value that is neither a table nor an array, by the name of its kind. -/
  | tableDue (found : String)
  deriving DecidableEq, Repr

/-- The names one can choose from, in words. -/
def nameList : List String → String
  | [] => "there are no variants"
  | [a] => "expected `" ++ a ++ "`"
  | [a, b] => "expected `" ++ a ++ "` or `" ++ b ++ "`"
  | names => "expected one of " ++ ", ".intercalate (names.map fun n => "`" ++ n ++ "`")

/-- The complaint in words. -/
def Complaint.message : Complaint → String
  | .endInArray => "EOF while parsing a list"
  | .endInObject => "EOF while parsing an object"
  | .endInText => "EOF while parsing a string"
  | .endInValue => "EOF while parsing a value"
  | .colonDue => "expected `:`"
  | .commaOrBracketDue => "expected `,` or `]`"
  | .commaOrBraceDue => "expected `,` or `\x7d`"
  | .wordDue => "expected ident"
  | .valueDue => "expected value"
  | .badEscape => "invalid escape"
  | .badNumber => "invalid number"
  | .numberTooLarge => "number out of range"
  | .controlCharacter =>
    "control character (\\u0000-\\u001F) found while parsing a string"
  | .nameDue => "key must be a string"
  | .loneSurrogate => "lone leading surrogate in hex escape"
  | .secondHalfDue => "unexpected end of hex escape"
  | .trailingComma => "trailing comma"
  | .trailingCharacters => "trailing characters"
  | .tooDeep => "recursion limit exceeded"
  | .wrongKind found expected => "invalid type: " ++ found.message ++ ", expected " ++ expected
  | .wrongValue found expected => "invalid value: " ++ found.message ++ ", expected " ++ expected
  | .wrongLength n expected => "invalid length " ++ toString n ++ ", expected " ++ expected
  | .missingField name => "missing field `" ++ name ++ "`"
  | .duplicateField name => "duplicate field `" ++ name ++ "`"
  | .unknownName name expected => "unknown variant `" ++ name ++ "`, " ++ nameList expected
  | .noVariant name => "data did not match any variant of untagged enum " ++ name
  | .choiceDue => "wanted string or table"
  | .singleEntryDue 0 => "wanted exactly 1 element, found 0 elements"
  | .singleEntryDue _ => "wanted exactly 1 element, more than 1 element"
  | .emptyTableDue => "expected empty table"
  | .emptyArrayDue => "expected empty array"
  | .tableDue found => "expected table, found " ++ found

/-- What kind of value a JSON value is. -/
def Json.found : Json → Found
  | .null => .null
  | .bool b => .bool b
  | .int n => .int n
  | .real x => .real (Shortest.render x)
  | .text s => .text s
  | .array _ => .sequence
  | .object _ => .map

namespace Json

/-- A complaint about a text. -/
structure Fault where
  /-- What is wrong. -/
  complaint : Complaint
  /-- How many octets of the text come before the place; `none` for no place yet. -/
  index : Option Nat
  deriving DecidableEq, Repr

/-- Line and column of the place `index` octets into a text: the first line is 1, and the column
counts the octets of the line before the place. -/
def place (s : List Char) (index : Nat) : Nat × Nat :=
  let (_, line, start) := s.foldl
    (fun (offset, line, start) c =>
      if offset < index ∧ c = '\n' then (offset + 1, line + 1, offset + 1)
      else (offset + c.utf8Size, line, start)) (0, 1, 0)
  (line, index - start)

/-- The fault in words, for the text it is about. -/
def Fault.message (f : Fault) (s : String) : String :=
  match f.index with
  | none => f.complaint.message
  | some index =>
    let (line, column) := place s.toList index
    f.complaint.message ++ " at line " ++ toString line ++ " column " ++ toString column

end Json

end ToolRelay
