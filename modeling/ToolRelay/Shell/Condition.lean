import ToolRelay.Host.Tree
import ToolRelay.Shell.Plan

/-!
# Conditions

What `test` and `[` decide: comparisons of texts and integers, questions about files, and their
combinations.
-/

namespace ToolRelay

namespace Shell

namespace Condition

/-- Why a condition has no outcome. -/
inductive Flaw where
  /-- A text is no integer. -/
  | notNumeric (text : Octets)
  /-- Something follows the condition, which ends with a word. -/
  | unexpected (word : Octets)
  /-- An operator has no operand. -/
  | incomplete (operator : Octets)
  /-- A bracket is not closed. -/
  | unclosed
  deriving DecidableEq, Repr

/-- The flaw in words. -/
def Flaw.message : Flaw → String
  | .notNumeric text => s!"Illegal number: {toText text}"
  | .unexpected word => s!"{toText word}: unexpected operator"
  | .incomplete operator => s!"{toText operator}: argument expected"
  | .unclosed => "closing paren expected"

/-- The integer in base ten that octets spell, blanks around it aside. -/
def integer (cs : Octets) : Except Flaw Int :=
  let isBlank (c : Char) : Bool := " \t\n\r\x0b\x0c".toList.contains c
  let trimmed := ((cs.dropWhile isBlank).reverse.dropWhile isBlank).reverse
  let digits := match trimmed with
    | '-' :: rest | '+' :: rest => rest
    | rest => rest
  if digits.isEmpty || !digits.all Char.isDigit then .error (.notNumeric cs)
  else
    let n : Nat := digits.foldl (fun n c => n * 10 + (c.toNat - 0x30)) 0
    .ok (if trimmed.head? = some '-' then -(n : Int) else n)

/-- The operators with one operand. -/
def isUnary (word : Octets) : Bool :=
  match word with
  | ['-', c] => "bcdefghknprstuwxzGLOS".toList.contains c
  | _ => false

/-- The operators between two operands. -/
def isBinary (word : Octets) : Bool :=
  ["=", "!=", "<", ">", "-eq", "-ne", "-lt", "-le", "-gt", "-ge", "-nt", "-ot", "-ef"].any
    (·.toList == word)

/-- The answer of an operator with one operand. -/
def unary (tree : FileTree) (dir : List Bytes) (op operand : Octets) : Bool :=
  let node : Option Node := (tree.lookup dir ⟨toBytes operand⟩).toOption.map (·.2)
  match op with
  | ['-', 'n'] => !operand.isEmpty
  | ['-', 'z'] => operand.isEmpty
  | ['-', 'e'] | ['-', 'r'] | ['-', 'w'] => node.isSome
  | ['-', 'd'] => node == some .directory
  | ['-', 'f'] =>
    match node with
    | some (.file _ _) | some (.program _) => true
    | _ => false
  | ['-', 'c'] => node == some .sink
  | ['-', 'x'] =>
    match node with
    | some (.file _ executable) => executable
    | some (.program _) | some .directory => true
    | _ => false
  | ['-', 's'] =>
    match node with
    | some (.file content _) => !content.isEmpty
    | some (.program _) | some .directory => true
    | _ => false
  | _ => false

/-- The answer of an operator between two operands. -/
def binary (a op b : Octets) : Except Flaw Bool :=
  let numeric (holds : Int → Int → Bool) : Except Flaw Bool := do
    return holds (← integer a) (← integer b)
  match String.ofList op with
  | "=" => .ok (a == b)
  | "!=" => .ok (a != b)
  | "<" => .ok (decide (a < b))
  | ">" => .ok (decide (b < a))
  | "-eq" => numeric fun m n => m == n
  | "-ne" => numeric fun m n => m != n
  | "-lt" => numeric fun m n => m < n
  | "-le" => numeric fun m n => m ≤ n
  | "-gt" => numeric fun m n => n < m
  | "-ge" => numeric fun m n => n ≤ m
  | _ => .ok false

/-- Whether the first of some words can only be an operand: nothing follows it, or an operator
between two operands. -/
def isOperand : List Octets → Bool
  | [_] => true
  | [_, _] => false
  | _ :: op :: _ => isBinary op
  | [] => true

mutual

/-- Conditions of which one must hold, and the words that are left. -/
def disjunction (tree : FileTree) (dir : List Bytes) : (fuel : Nat) → List Octets →
    Except Flaw (Bool × List Octets)
  | 0, words => .error (.unexpected (words.headD []))
  | fuel + 1, words => do
    let (a, rest) ← conjunction tree dir fuel words
    match rest with
    | ['-', 'o'] :: rest =>
      let (b, rest) ← disjunction tree dir fuel rest
      return (a || b, rest)
    | rest => return (a, rest)

/-- Conditions that must all hold. -/
def conjunction (tree : FileTree) (dir : List Bytes) : (fuel : Nat) → List Octets →
    Except Flaw (Bool × List Octets)
  | 0, words => .error (.unexpected (words.headD []))
  | fuel + 1, words => do
    let (a, rest) ← negation tree dir fuel words
    match rest with
    | ['-', 'a'] :: rest =>
      let (b, rest) ← conjunction tree dir fuel rest
      return (a && b, rest)
    | rest => return (a, rest)

/-- A condition or its opposite. -/
def negation (tree : FileTree) (dir : List Bytes) : (fuel : Nat) → List Octets →
    Except Flaw (Bool × List Octets)
  | 0, words => .error (.unexpected (words.headD []))
  | fuel + 1, words => do
    match words with
    | ['!'] :: next :: rest =>
      if isOperand words then primary tree dir fuel words
      else
        let (a, rest) ← negation tree dir fuel (next :: rest)
        return (!a, rest)
    | words => primary tree dir fuel words

/-- A condition without any other in it, or brackets. -/
def primary (tree : FileTree) (dir : List Bytes) : (fuel : Nat) → List Octets →
    Except Flaw (Bool × List Octets)
  | 0, words => .error (.unexpected (words.headD []))
  | fuel + 1, words => do
    match words with
    | [] => return (false, [])
    | word :: rest =>
      if word = ['('] ∧ !rest.isEmpty then
        let (a, rest) ← disjunction tree dir fuel rest
        match rest with
        | [')'] :: rest => return (a, rest)
        | _ => throw .unclosed
      else if isUnary word && !isOperand words then
        match rest with
        | operand :: rest => return (unary tree dir word operand, rest)
        | [] => throw (.incomplete word)
      else
        match rest with
        | [] => return (!word.isEmpty, [])
        | op :: after =>
          if !isBinary op then return (!word.isEmpty, rest)
          else
            match after with
            | b :: rest => return (← binary word op b, rest)
            | [] => throw (.incomplete op)

end

/-- Words without brackets around one or two of them. -/
def withoutBrackets (words : List Octets) : List Octets :=
  match words with
  | [['('], a, [')']] => [a]
  | [['('], a, b, [')']] => [a, b]
  | words => words

/-- Whether the condition holds that words spell. -/
def holds (tree : FileTree) (dir : List Bytes) (words : List Octets) : Except Flaw Bool := do
  match words with
  | [a, op, b] => if isBinary op then return ← binary a op b
  | _ => pure ()
  let words := withoutBrackets words
  let (a, rest) ← disjunction tree dir (4 * words.length + 8) words
  if rest.isEmpty then return a
  else throw (.unexpected ((words.take (words.length - rest.length)).getLastD []))

end Condition

end Shell

end ToolRelay
