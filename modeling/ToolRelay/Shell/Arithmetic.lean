import ToolRelay.Shell.Reader

/-!
# Arithmetic in the shell

Arithmetic expressions as trees, their reading and their value.  Numbers have 64 bits with a sign;
what is too large for that wraps around.  An assignment changes a variable, so that
`Expression.value` is an `Evaluation`, which takes the variables along.
-/

namespace ToolRelay

namespace Shell

namespace Arithmetic

/-- An operator with one operand. -/
inductive Unary where
  | minus | plus | complement | negate
  deriving DecidableEq, Repr

/-- An operator with two operands that are both evaluated. -/
inductive Binary where
  | or | xor | and | eq | ne | le | ge | lt | gt | shiftLeft | shiftRight
  | add | sub | mul | div | mod
  deriving DecidableEq, Repr

/-- An arithmetic expression. -/
inductive Expression where
  /-- A number. -/
  | number (n : Int)
  /-- The value of a variable. -/
  | named (name : Octets)
  /-- An operator with one operand. -/
  | unary (op : Unary) (a : Expression)
  /-- An operator with two operands. -/
  | binary (op : Binary) (a b : Expression)
  /-- Whether both are true; the second counts only if the first is. -/
  | both (a b : Expression)
  /-- Whether one is true; the second counts only if the first is not. -/
  | either (a b : Expression)
  /-- One of two, by a third. -/
  | choose (test a b : Expression)
  /-- A variable gets a value, by means of an operator that its old value goes through. -/
  | assign (name : Octets) (op : Option Binary) (a : Expression)
  deriving Repr

/-- Why there is no value. -/
inductive Flaw where
  /-- What is written is no expression. -/
  | malformed (problem : String)
  /-- A division by zero. -/
  | divisionByZero
  /-- A variable holds no number. -/
  | notNumeric (value : Octets)
  deriving DecidableEq, Repr

/-! ### Numbers -/

/-- The greatest number. -/
def greatest : Int := 0x7FFFFFFFFFFFFFFF

/-- The least number. -/
def least : Int := -0x8000000000000000

/-- How many numbers there are. -/
def modulus : Nat := 0x10000000000000000

/-- An integer in 64 bits. -/
def wrap (n : Int) : Int := n.bmod modulus

/-- The value of a digit. -/
def digit? (c : Char) : Option Nat :=
  if '0' ≤ c ∧ c ≤ '9' then some (c.toNat - 0x30)
  else if 'a' ≤ c ∧ c ≤ 'f' then some (c.toNat - 0x61 + 10)
  else if 'A' ≤ c ∧ c ≤ 'F' then some (c.toNat - 0x41 + 10)
  else none

/-- The digits ahead in a base, and what follows them. -/
def digits (base : Nat) (cs : Octets) : List Nat × Octets :=
  let here := cs.takeWhile fun c => (digit? c).any (· < base)
  (here.filterMap digit?, cs.drop here.length)

/-- The number without sign ahead, in base eight after a zero and in base sixteen after `0x`, and
what follows; nothing if no digit is ahead. -/
def natural? (cs : Octets) : Option (Nat × Octets) :=
  let valueIn (base : Nat) (ds : List Nat) : Nat := ds.foldl (fun n d => n * base + d) 0
  let hexadecimal := match cs with
    | '0' :: x :: rest =>
      if x = 'x' ∨ x = 'X' then
        match digits 16 rest with
        | ([], _) => none
        | (ds, rest) => some (valueIn 16 ds, rest)
      else none
    | _ => none
  match hexadecimal with
  | some found => some found
  | none =>
    let base := if cs.head? = some '0' then 8 else 10
    match digits base cs with
    | ([], _) => none
    | (ds, rest) => some (valueIn base ds, rest)

/-- Whether an octet is a blank to those who read numbers. -/
def isBlank (c : Char) : Bool := " \t\n\r\x0b\x0c".toList.contains c

/-- The number with an optional sign that octets begin with, after blanks, and what follows; zero
and everything if they begin with none. -/
def leadingInteger (cs : Octets) : Int × Octets :=
  let signed := cs.dropWhile isBlank
  let (isNegative, unsigned) := match signed with
    | '-' :: rest => (true, rest)
    | '+' :: rest => (false, rest)
    | rest => (false, rest)
  match natural? unsigned with
  | some (n, rest) => (if isNegative then -(n : Int) else (n : Int), rest)
  | none => (0, cs)

/-- The number that the value of a variable stands for; blanks alone are zero. -/
def numberOf? (value : Octets) : Option Int :=
  let (n, rest) := leadingInteger value
  if rest.all isBlank ∧ least ≤ n ∧ n ≤ greatest then some n else none

/-! ### Reading -/

/-- An outcome, and the octets ahead. -/
abbrev Parser (α : Type) := StateT Octets (Except Flaw) α

/-- No outcome. -/
def refuse {α : Type} (problem : String) : Parser α := fun _ => .error (.malformed problem)

/-- Goes past blanks. -/
def blanks : Parser Unit := modify fun cs => cs.dropWhile fun c => " \t\n".toList.contains c

/-- Goes past the operator that is ahead, if it is one of the given ones; longer ones come
first. -/
def oneOf? {α : Type} (operators : List (String × α)) : Parser (Option α) := do
  blanks
  let cs ← get
  match operators.find? fun (text, _) => text.toList.isPrefixOf cs with
  | some (text, op) =>
    set (cs.drop text.length)
    return some op
  | none => return none

/-- Goes past an operator, if it is ahead. -/
def accept (text : String) : Parser Bool := do return (← oneOf? [(text, ())]).isSome

/-- The operators with two operands, the weakest ones first.  Nothing stands for what begins like
an operator of its level and is another one. -/
def levels : List (List (String × Option Binary)) :=
  [ [("||", none), ("|=", none), ("|", some .or)],
    [("^=", none), ("^", some .xor)],
    [("&&", none), ("&=", none), ("&", some .and)],
    [("==", some .eq), ("!=", some .ne)],
    [("<<", none), (">>", none), ("<=", some .le), (">=", some .ge), ("<", some .lt),
      (">", some .gt)],
    [("<<=", none), (">>=", none), ("<<", some .shiftLeft), (">>", some .shiftRight)],
    [("+=", none), ("-=", none), ("+", some .add), ("-", some .sub)],
    [("*=", none), ("/=", none), ("%=", none), ("*", some .mul), ("/", some .div),
      ("%", some .mod)] ]

/-- The operator of a level that is ahead, which is gone past. -/
def operator? (level : List (String × Option Binary)) : Parser (Option Binary) := do
  let before ← get
  match ← oneOf? level with
  | some (some op) => return some op
  | some none =>
    set before
    return none
  | none => return none

/-- The operators that assign. -/
def assignments : List (String × Option (Option Binary)) :=
  [("==", none), ("=", some none), ("+=", some (some .add)), ("-=", some (some .sub)),
    ("*=", some (some .mul)), ("/=", some (some .div)), ("%=", some (some .mod)),
    ("<<=", some (some .shiftLeft)), (">>=", some (some .shiftRight)), ("&=", some (some .and)),
    ("^=", some (some .xor)), ("|=", some (some .or))]

mutual

/-- An expression. -/
def expression : (fuel : Nat) → Parser Expression
  | 0 => refuse "expecting primary"
  | fuel + 1 => do
    blanks
    let before ← get
    let name := before.takeWhile Reader.isNameChar
    if name.isEmpty || (name.headD '0').isDigit then conditional fuel
    else
      set (before.drop name.length)
      match ← oneOf? assignments with
      | some (some op) => return .assign name op (← expression fuel)
      | _ =>
        set before
        conditional fuel

/-- An expression without an assignment at its top. -/
def conditional : (fuel : Nat) → Parser Expression
  | 0 => refuse "expecting primary"
  | fuel + 1 => do
    let test ← disjunction fuel
    if ← accept "?" then
      let a ← expression fuel
      if ← accept ":" then return .choose test a (← conditional fuel)
      else refuse "expecting ':'"
    else return test

/-- Conjunctions joined by `||`. -/
def disjunction : (fuel : Nat) → Parser Expression
  | 0 => refuse "expecting primary"
  | fuel + 1 => do
    let a ← conjunction fuel
    if ← accept "||" then return .either a (← disjunction fuel) else return a

/-- Operands joined by `&&`. -/
def conjunction : (fuel : Nat) → Parser Expression
  | 0 => refuse "expecting primary"
  | fuel + 1 => do
    let a ← operation fuel levels
    if ← accept "&&" then return .both a (← conjunction fuel) else return a

/-- Operands joined by operators of the given levels. -/
def operation : (fuel : Nat) → List (List (String × Option Binary)) → Parser Expression
  | 0, _ => refuse "expecting primary"
  | fuel + 1, [] => operand fuel
  | fuel + 1, level :: tighter => do
    operationRest fuel level tighter (← operation fuel tighter)

/-- What follows `a` in an operation. -/
def operationRest : (fuel : Nat) → List (String × Option Binary) →
    List (List (String × Option Binary)) → Expression → Parser Expression
  | 0, _, _, _ => refuse "expecting primary"
  | fuel + 1, level, tighter, a => do
    match ← operator? level with
    | some op => operationRest fuel level tighter (.binary op a (← operation fuel tighter))
    | none => return a

/-- A number, a variable, a sign before an operand, or brackets. -/
def operand : (fuel : Nat) → Parser Expression
  | 0 => refuse "expecting primary"
  | fuel + 1 => do
    if ← accept "(" then
      let a ← expression fuel
      if ← accept ")" then return a else refuse "expecting ')'"
    else
      match ← oneOf? [("-", Unary.minus), ("+", .plus), ("~", .complement), ("!", .negate)] with
      | some op => return .unary op (← operand fuel)
      | none =>
        let cs ← get
        match natural? cs with
        | some (n, rest) =>
          set rest
          return .number (min n greatest)
        | none =>
          let name := cs.takeWhile Reader.isNameChar
          if name.isEmpty then refuse "expecting primary"
          else
            set (cs.drop name.length)
            return .named name

end

/-- The expression that octets spell. -/
def parse (cs : Octets) : Except Flaw Expression := do
  let (e, rest) ← expression (16 * cs.length + 32) cs
  let ((), rest) ← blanks rest
  if rest.isEmpty then return e else throw (.malformed "expecting EOF")

/-! ### Values -/

/-- Variables and their values. -/
abbrev Variables := List (Octets × Octets)

/-- The value of a condition. -/
def truth (b : Bool) : Int := if b then 1 else 0

/-- The value of an operation with one operand. -/
def Unary.apply (op : Unary) (n : Int) : Int :=
  match op with
  | .minus => wrap (-n)
  | .plus => n
  | .complement => -n - 1
  | .negate => truth (n == 0)

/-- An operation on the bits of two numbers. -/
def onBits (f : Nat → Nat → Nat) (m n : Int) : Int :=
  wrap (f (m % modulus).toNat (n % modulus).toNat)

/-- The value of an operation with two operands; nothing for a division by zero. -/
def Binary.apply? (op : Binary) (m n : Int) : Option Int :=
  match op with
  | .or => some (onBits (· ||| ·) m n)
  | .xor => some (onBits (· ^^^ ·) m n)
  | .and => some (onBits (· &&& ·) m n)
  | .eq => some (truth (m == n))
  | .ne => some (truth (m != n))
  | .le => some (truth (m ≤ n))
  | .ge => some (truth (n ≤ m))
  | .lt => some (truth (m < n))
  | .gt => some (truth (n < m))
  | .shiftLeft => some (wrap (m * Nat.pow 2 (n % 64).toNat))
  | .shiftRight => some (m / Nat.pow 2 (n % 64).toNat)
  | .add => some (wrap (m + n))
  | .sub => some (wrap (m - n))
  | .mul => some (wrap (m * n))
  | .div => if n = 0 then none else some (wrap (m.tdiv n))
  | .mod => if n = 0 then none else some (m.tmod n)

/-- A computation that knows variables and changes them. -/
abbrev Evaluation (α : Type) := StateT Variables (Except Flaw) α

/-- The number that a variable holds. -/
def look (name : Octets) : Evaluation Int := do
  match (← get).find? (·.1 == name) with
  | none => return 0
  | some (_, value) =>
    match numberOf? value with
    | some n => return n
    | none => throw (.notNumeric value)

/-- The value of an expression. -/
def Expression.value : Expression → Evaluation Int
  | .number n => return n
  | .named name => look name
  | .unary op a => return op.apply (← a.value)
  | .binary op a b => do
    let m ← a.value
    let n ← b.value
    match op.apply? m n with
    | some r => return r
    | none => throw .divisionByZero
  | .both a b => do
    if (← a.value) = 0 then return 0 else return truth ((← b.value) != 0)
  | .either a b => do
    if (← a.value) = 0 then return truth ((← b.value) != 0) else return 1
  | .choose test a b => do
    if (← test.value) = 0 then b.value else a.value
  | .assign name op a => do
    let n ← a.value
    let n ← match op with
      | none => pure n
      | some op =>
        match op.apply? (← look name) n with
        | some r => pure r
        | none => throw .divisionByZero
    modify fun bindings => (name, (toString n).toList) :: bindings
    return n

/-- What is wrong with an expression, in words. -/
def Flaw.message (expression : Octets) : Flaw → String
  | .malformed problem => s!"arithmetic expression: {problem}: \"{toText expression}\""
  | .divisionByZero => s!"arithmetic expression: division by zero: \"{toText expression}\""
  | .notNumeric value => s!"Illegal number: {toText value}"

/-- The value of an expression, and the variables that it sets, latest first. -/
def evaluate (bindings : Variables) (expression : Octets) : Except Flaw (Int × Variables) := do
  let (n, after) ← (← parse expression).value bindings
  return (n, after.take (after.length - bindings.length))

end Arithmetic

end Shell

end ToolRelay
