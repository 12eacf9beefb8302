import ToolRelay.Shell.Arithmetic

/-!
# Escapes and formats

What backslashes mean to `echo` and `printf`, and how `printf` fills a format with arguments.  The
command of the shell and the program of the same name differ in the escapes that they know and in
the words of their complaints.
-/

namespace ToolRelay

namespace Shell

namespace Format

/-! ### Escapes -/

/-- The octet that a letter means after a backslash. -/
def simple? (c : Char) : Option Char :=
  match c with
  | '\\' => some '\\'
  | 'a' => some '\x07'
  | 'b' => some '\x08'
  | 'e' => some '\x1b'
  | 'f' => some '\x0c'
  | 'n' => some '\n'
  | 'r' => some '\r'
  | 't' => some '\t'
  | 'v' => some '\x0b'
  | _ => none

/-- The octet that digits stand for in a base. -/
def ofDigits (base : Nat) (digits : Octets) : Char :=
  Char.ofNat
    ((digits.filterMap Arithmetic.digit?).foldl (fun n d => n * base + d) 0 % 256)

/-- The octet after a backslash, and how many octets spell it.  With `leadingZero`, a zero comes
before three digits in base eight; with `isWide`, `\x` and `\"` mean something too. -/
def escape (leadingZero isWide : Bool) : Octets → Option (Char × Nat)
  | [] => none
  | c :: rest =>
    let digits (base n : Nat) (cs : Octets) : Octets :=
      (cs.take n).takeWhile fun c => (Arithmetic.digit? c).any (· < base)
    match simple? c with
    | some x => some (x, 1)
    | none =>
      if leadingZero ∧ c = '0' then
        let found := digits 8 3 rest
        some (ofDigits 8 found, found.length + 1)
      else if !(digits 8 1 [c]).isEmpty then
        let found := digits 8 3 (c :: rest)
        some (ofDigits 8 found, found.length)
      else if isWide ∧ c = 'x' ∧ !(digits 16 1 rest).isEmpty then
        let found := digits 16 2 rest
        some (ofDigits 16 found, found.length + 1)
      else if isWide ∧ c = '"' then some ('"', 1)
      else none

/-- Octets with their escapes replaced, and whether output ends there because of `\c`; `skipped`
octets belong to the last escape. -/
def unescape : (skipped : Nat) → Octets → Octets × Bool
  | _, [] => ([], false)
  | skipped + 1, _ :: rest => unescape skipped rest
  | 0, '\\' :: rest =>
    if rest.head? = some 'c' then ([], true)
    else
      match escape true false rest with
      | some (x, n) =>
        let (done, ended) := unescape n rest
        (x :: done, ended)
      | none =>
        let (done, ended) := unescape 0 rest
        ('\\' :: done, ended)
  | 0, c :: rest =>
    let (done, ended) := unescape 0 rest
    (c :: done, ended)

/-! ### Formats -/

/-- A number in a directive. -/
inductive Size where
  /-- The number that is written there. -/
  | given (n : Nat)
  /-- The next argument. -/
  | next
  deriving DecidableEq, Repr

/-- A directive: how the next argument is written. -/
structure Directive where
  /-- The flags. -/
  flags : List Char
  /-- The least width. -/
  width : Option Size
  /-- The precision. -/
  precision : Option Size
  /-- The letter that says what is written. -/
  letter : Char
  deriving DecidableEq, Repr

/-- A piece of a format. -/
inductive Piece where
  /-- An octet. -/
  | octet (c : Char)
  /-- An argument. -/
  | argument (d : Directive)
  /-- The end of all output. -/
  | stop
  /-- A directive that means nothing; `text` is what stands there. -/
  | flaw (text : Octets)
  deriving DecidableEq, Repr

/-- The size ahead, and what follows. -/
def size? (cs : Octets) : Option Size × Octets :=
  match cs with
  | '*' :: rest => (some .next, rest)
  | cs =>
    let digits := cs.takeWhile Char.isDigit
    (if digits.isEmpty then none else some (.given (Reader.natOf digits)), cs.drop digits.length)

/-- The directive after a percent sign, and how many octets spell it. -/
def directive (letters : List Char) (cs : Octets) : Piece × Nat :=
  let flags := cs.takeWhile fun c => "#-+ 0".toList.contains c
  let (width, rest) := size? (cs.drop flags.length)
  let (precision, rest) := match rest with
    | '.' :: rest =>
      let (precision, rest) := size? rest
      (some (precision.getD (.given 0)), rest)
    | rest => (none, rest)
  match rest with
  | [] => (.flaw [], cs.length)
  | letter :: _ =>
    if letters.contains letter then
      (.argument ⟨flags, width, precision, letter⟩, cs.length - rest.length + 1)
    else (.flaw (cs.take (cs.length - rest.length + 1)), cs.length)

/-- The letters of directives. -/
def letters : List Char := "diouxXcsb".toList

/-- The pieces of a format; `skipped` octets belong to the last piece. -/
def pieces (isWide : Bool) : (skipped : Nat) → Octets → List Piece
  | _, [] => []
  | skipped + 1, _ :: rest => pieces isWide skipped rest
  | 0, '\\' :: rest =>
    if isWide ∧ rest.head? = some 'c' then [.stop]
    else
      match escape false isWide rest with
      | some (x, n) => .octet x :: pieces isWide n rest
      | none => .octet '\\' :: pieces isWide 0 rest
  | 0, '%' :: rest =>
    if rest.head? = some '%' then .octet '%' :: pieces isWide 1 rest
    else
      let (piece, n) := directive letters rest
      piece :: pieces isWide n rest
  | 0, c :: rest => .octet c :: pieces isWide 0 rest

/-! ### Arguments -/

/-- What is wrong with the arguments or the format. -/
inductive Complaint where
  /-- An argument is no number. -/
  | notNumeric (arg : Octets)
  /-- Something follows the number in an argument. -/
  | notAllNumeric (arg : Octets)
  /-- The number in an argument is too large. -/
  | outOfRange (arg : Octets)
  /-- A directive means nothing. -/
  | badDirective (text : Octets)
  /-- There are arguments for which there is no directive. -/
  | excess (arg : Octets)
  deriving DecidableEq, Repr

/-- The complaint in the words of the shell, which does not mind arguments in excess. -/
def Complaint.inShell? : Complaint → Option String
  | .notNumeric arg => some s!"{toText arg}: expected numeric value"
  | .notAllNumeric arg => some s!"{toText arg}: not completely converted"
  | .outOfRange arg => some s!"{toText arg}: Numerical result out of range"
  | .badDirective [] => some "missing format character"
  | .badDirective text => some s!"%{toText (text.drop (text.length - 1))}: invalid directive"
  | .excess _ => none

/-- The complaint in the words of the program. -/
def Complaint.inProgram : Complaint → String
  | .notNumeric arg => s!"'{toText arg}': expected a numeric value"
  | .notAllNumeric arg => s!"'{toText arg}': value not completely converted"
  | .outOfRange arg => s!"'{toText arg}': Numerical result out of range"
  | .badDirective text => s!"%{toText text}: invalid conversion specification"
  | .excess arg => s!"warning: ignoring excess arguments, starting with '{toText arg}'"

/-- The integer that an argument stands for, between the given bounds: a number, or the number of
the octet after a quote. -/
def integer (lo hi : Int) (arg : Octets) : Int × List Complaint :=
  match arg with
  | q :: rest =>
    if q = '"' ∨ q = '\'' then ((rest.headD '\x00').toNat, [])
    else
      let (n, after) := Arithmetic.leadingInteger arg
      if after = arg then (0, [.notNumeric arg])
      else if !after.isEmpty then (n, [.notAllNumeric arg])
      else if n < lo then (lo, [.outOfRange arg])
      else if hi < n then (hi, [.outOfRange arg])
      else (n, [])
  | [] => (0, [])

/-- A text, filled up to a width. -/
def pad (d : Directive) (width : Nat) (cs : Octets) : Octets :=
  let blanks := List.replicate (width - cs.length) ' '
  if d.flags.contains '-' then cs ++ blanks else blanks ++ cs

/-- A number by its sign and its digits, filled up to a width. -/
def padNumber (d : Directive) (width : Nat) (precision : Option Nat) (sign digits : Octets) :
    Octets :=
  let zeros (n : Nat) (cs : Octets) : Octets := List.replicate (n - cs.length) '0' ++ cs
  let digits := match precision with
    | some p => if p = 0 && digits == ['0'] then [] else zeros p digits
    | none =>
      if d.flags.contains '0' && !d.flags.contains '-' then zeros (width - sign.length) digits
      else digits
  pad d width (sign ++ digits)

/-- An argument as a directive says, with its width and precision; also whether all output ends
there. -/
def convert (d : Directive) (width : Nat) (precision : Option Nat) (arg : Octets) :
    Octets × List Complaint × Bool :=
  let signed : Octets × List Complaint × Bool :=
    let (n, complaints) := integer Arithmetic.least Arithmetic.greatest arg
    let sign :=
      if n < 0 then ['-']
      else if d.flags.contains '+' then ['+']
      else if d.flags.contains ' ' then [' ']
      else []
    (padNumber d width precision sign (Nat.toDigits 10 n.natAbs), complaints, false)
  let unsigned (base : Nat) (mark : Octets) : Octets × List Complaint × Bool :=
    let (n, complaints) := integer Arithmetic.least 0xFFFFFFFFFFFFFFFF arg
    let n := (n % Arithmetic.modulus).toNat
    let sign := if d.flags.contains '#' && n != 0 then mark else []
    (padNumber d width precision sign (Nat.toDigits base n), complaints, false)
  let cut (cs : Octets) : Octets := (precision.map cs.take).getD cs
  match d.letter with
  | 'd' | 'i' => signed
  | 'u' => unsigned 10 []
  | 'o' => unsigned 8 ['0']
  | 'x' => unsigned 16 ['0', 'x']
  | 'X' =>
    let (cs, complaints, _) := unsigned 16 ['0', 'x']
    (cs.map Char.toUpper, complaints, false)
  | 'c' => (pad d width [arg.headD '\x00'], [], false)
  | 'b' =>
    let (cs, ended) := unescape 0 arg
    (pad d width (cut cs), [], ended)
  | _ => (pad d width (cut arg), [], false)

/-- How far `printf` has come. -/
structure Progress where
  /-- The arguments that are left. -/
  args : List Octets
  /-- What is written, latest first. -/
  written : Octets
  /-- The complaints, latest first. -/
  complaints : List Complaint
  /-- Whether nothing more is written. -/
  isOver : Bool

namespace Progress

/-- The size that a directive asks for. -/
def size (p : Progress) : Option Size → Option Int × Progress
  | none => (none, p)
  | some (.given n) => (some n, p)
  | some .next =>
    let (n, complaints) := integer Arithmetic.least Arithmetic.greatest (p.args.headD [])
    (some n, { p with args := p.args.tail, complaints := complaints ++ p.complaints })

/-- Writes a piece. -/
def step (p : Progress) (piece : Piece) : Progress :=
  if p.isOver then p
  else
    match piece with
    | .octet c => { p with written := c :: p.written }
    | .stop => { p with isOver := true }
    | .flaw text => { p with complaints := .badDirective text :: p.complaints, isOver := true }
    | .argument d =>
      let (width, p) := p.size d.width
      let (precision, p) := p.size d.precision
      let width := width.getD 0
      let d := if width < 0 then { d with flags := '-' :: d.flags } else d
      let precision := precision.bind fun n => if n < 0 then none else some n.toNat
      let (cs, complaints, isOver) := convert d width.natAbs precision (p.args.headD [])
      { args := p.args.tail
        written := cs.reverse ++ p.written
        complaints := complaints ++ p.complaints
        isOver }

/-- Writes the pieces again while there are arguments left, at most `fuel` times more. -/
def run (ps : List Piece) : (fuel : Nat) → Progress → Progress
  | 0, p => ps.foldl step p
  | fuel + 1, p =>
    let q := ps.foldl step p
    if q.isOver || q.args.isEmpty || q.args.length == p.args.length then q else run ps fuel q

end Progress

/-- What a format filled with arguments writes, and the complaints on the way. -/
def fill (isWide : Bool) (format : Octets) (args : List Octets) : Octets × List Complaint :=
  let p := Progress.run (pieces isWide 0 format) args.length ⟨args, [], [], false⟩
  let excess := match p.args with
    | arg :: _ => if p.isOver || !isWide then [] else [.excess arg]
    | [] => []
  (p.written.reverse, p.complaints.reverse ++ excess)

end Format

/-- What `echo` writes; `isBare` tells whether no line feed follows, and `escapes` whether
backslashes mean anything. -/
def echo (isBare escapes : Bool) (args : List Octets) : Octets :=
  let text := List.intercalate [' '] args
  let (done, ended) := if escapes then Format.unescape 0 text else (text, false)
  if isBare || ended then done else done ++ ['\n']

end Shell

end ToolRelay
