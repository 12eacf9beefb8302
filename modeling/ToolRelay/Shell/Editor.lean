import ToolRelay.Shell.Pattern
import ToolRelay.Shell.Reader

/-!
# Editing lines

The scripts of a line editor: commands that are carried out on each line of a text, or on those
that an address selects, one after the other.
-/

namespace ToolRelay

namespace Shell

namespace Editor

/-- A way to select lines. -/
inductive Address where
  /-- The line of this number. -/
  | line (n : Nat)
  /-- The last line. -/
  | last
  /-- The lines in which a pattern matches. -/
  | matching (p : Pattern)
  deriving Repr

/-- Which lines a command is for. -/
inductive Selection where
  /-- All of them. -/
  | all
  /-- Those of an address. -/
  | one (a : Address)
  /-- Those from one address to another. -/
  | range (a b : Address)
  deriving Repr

/-- What is done to a line. -/
inductive Verb where
  /-- A substitution; the line is printed afterwards if anything was replaced and that is asked
  for. -/
  | substitute (s : Substitution) (prints : Bool)
  /-- The line goes, and the next one comes. -/
  | delete
  /-- The line is printed. -/
  | print
  /-- The number of the line is printed. -/
  | number
  /-- Octets are exchanged for others. -/
  | exchange (pairs : List (Char × Char))
  /-- No more lines are edited. -/
  | quit
  deriving Repr

/-- A command of a script. -/
structure Step where
  /-- The lines that it is for. -/
  selection : Selection
  /-- Whether it is for all other lines instead. -/
  negated : Bool
  /-- What it does. -/
  verb : Verb
  deriving Repr

/-! ### Reading scripts -/

/-- An outcome and the octets ahead, or what is wrong and the octets ahead there. -/
abbrev Parser (α : Type) := StateT Octets (Except (Octets × String)) α

/-- No outcome. -/
def refuse {α : Type} (text : String) : Parser α := fun rest => .error (rest, text)

/-- The next octet, which is gone past. -/
def next? : Parser (Option Char) := do
  match ← get with
  | c :: rest =>
    set rest
    return some c
  | [] => return none

/-- Goes past the next octets that satisfy `p`. -/
def takeWhile (p : Char → Bool) : Parser Octets := do
  let cs := (← get).takeWhile p
  set ((← get).drop cs.length)
  return cs

/-- The octets up to a delimiter that no backslash protects and that is in no set, and what follows
it. -/
def upTo (delimiter : Char) (hasSets : Bool) : (inSet : Bool) → Octets → Octets →
    Option (Octets × Octets)
  | _, [], _ => none
  | false, '\\' :: c :: rest, done =>
    if c = delimiter then upTo delimiter hasSets false rest (c :: done)
    else upTo delimiter hasSets false rest (c :: '\\' :: done)
  | false, '[' :: rest, done =>
    if '[' = delimiter then some (done.reverse, rest)
    else
      let isSet := hasSets && rest.contains ']'
      match rest with
      | '^' :: ']' :: rest =>
        if isSet then upTo delimiter hasSets true rest (']' :: '^' :: '[' :: done)
        else upTo delimiter hasSets false ('^' :: ']' :: rest) ('[' :: done)
      | ']' :: rest =>
        if isSet then upTo delimiter hasSets true rest (']' :: '[' :: done)
        else upTo delimiter hasSets false (']' :: rest) ('[' :: done)
      | rest => upTo delimiter hasSets isSet rest ('[' :: done)
  | false, c :: rest, done =>
    if c = delimiter then some (done.reverse, rest)
    else upTo delimiter hasSets false rest (c :: done)
  | true, c :: rest, done => upTo delimiter hasSets (c != ']') rest (c :: done)
termination_by _ cs => cs.length

/-- The octets up to a delimiter, which is gone past. -/
def delimited (delimiter : Char) (hasSets : Bool) (text : String) : Parser Octets := do
  match upTo delimiter hasSets false (← get) [] with
  | some (cs, rest) =>
    set rest
    return cs
  | none =>
    set ([] : Octets)
    refuse text

/-- A pattern by its text. -/
def pattern (cs : Octets) : Parser Pattern := do
  match Pattern.parse? cs with
  | some p => return p
  | none => refuse "unterminated address regex"

/-- The address ahead, if there is one. -/
def address? : Parser (Option Address) := do
  match ← get with
  | '$' :: rest =>
    set rest
    return some .last
  | '/' :: rest =>
    set rest
    let cs ← delimited '/' true "unterminated address regex"
    return some (.matching (← pattern cs))
  | c :: _ =>
    if c.isDigit then
      let digits ← takeWhile Char.isDigit
      return some (.line (Reader.natOf digits))
    else return none
  | [] => return none

/-- The flags of a substitution: the first match, whether all after it count, whether the line is
printed; `fuel` flags at most. -/
def flags : (fuel : Nat) → (first : Nat) → (everywhere prints : Bool) → Parser (Nat × Bool × Bool)
  | 0, first, everywhere, prints => return (first, everywhere, prints)
  | fuel + 1, first, everywhere, prints => do
    match ← get with
    | 'g' :: rest =>
      set rest
      if everywhere then refuse "multiple \u0060g' options to \u0060s' command"
      else flags fuel first true prints
    | 'p' :: rest =>
      set rest
      if prints then refuse "multiple \u0060p' options to \u0060s' command"
      else flags fuel first everywhere true
    | c :: rest =>
      if c.isDigit then
        let digits ← takeWhile Char.isDigit
        flags fuel (Reader.natOf digits) everywhere prints
      else if " \t\n;\x7d#".toList.contains c then return (first, everywhere, prints)
      else
        set rest
        refuse "unknown option to \u0060s'"
    | [] => return (first, everywhere, prints)

/-- Goes to the end of a command. -/
def finish (verb : Verb) : Parser Verb := do
  let _ ← takeWhile fun c => c == ' ' || c == '\t'
  match ← get with
  | [] | '\x7d' :: _ | '#' :: _ => return verb
  | c :: rest =>
    set rest
    if c = ';' ∨ c = '\n' then return verb else refuse "extra characters after command"

/-- The verb ahead. -/
def verb : Parser Verb := do
  match ← next? with
  | none => refuse "missing command"
  | some 's' =>
    let unterminated : String := "unterminated \u0060s' command"
    match ← next? with
    | none => refuse unterminated
    | some delimiter =>
      let text ← delimited delimiter true unterminated
      let replacement ← delimited delimiter false unterminated
      let (first, everywhere, prints) ← flags ((← get).length + 1) 1 false false
      let pattern ← pattern text
      finish (.substitute ⟨pattern, replacement, first, everywhere⟩ prints)
  | some 'y' =>
    let unterminated : String := "unterminated \u0060y' command"
    match ← next? with
    | none => refuse unterminated
    | some delimiter =>
      let froms ← delimited delimiter false unterminated
      let tos ← delimited delimiter false unterminated
      if froms.length = tos.length then finish (.exchange (froms.zip tos))
      else refuse "strings for \u0060y' command are different lengths"
  | some 'd' => finish .delete
  | some 'p' => finish .print
  | some '=' => finish .number
  | some 'q' => finish .quit
  | some c => refuse ("unknown command: \u0060" ++ toText [c] ++ "'")

/-- The commands of a script; `fuel` of them at most. -/
def steps : (fuel : Nat) → Parser (List Step)
  | 0 => return []
  | fuel + 1 => do
    let _ ← takeWhile fun c => " \t\n;".toList.contains c
    match ← get with
    | [] => return []
    | '#' :: _ =>
      let _ ← takeWhile (· != '\n')
      steps fuel
    | _ =>
      let selection ← do
        match ← address? with
        | none => pure Selection.all
        | some a =>
          match ← get with
          | ',' :: rest =>
            set rest
            match ← address? with
            | some b => pure (Selection.range a b)
            | none =>
              let _ ← next?
              refuse "unexpected \u0060,'"
          | _ => pure (Selection.one a)
      let _ ← takeWhile fun c => c == ' ' || c == '\t'
      let negations ← takeWhile (· == '!')
      let step : Step := ⟨selection, !negations.isEmpty, ← verb⟩
      return step :: (← steps fuel)

/-- The commands that a script spells, or what is wrong with it and how many octets lead there. -/
def parse (script : Octets) : Except (Nat × String) (List Step) :=
  match steps (script.length + 1) script with
  | .ok (found, _) => .ok found
  | .error (rest, text) => .error (script.length - rest.length, text)

/-! ### Editing -/

/-- A line of a text. -/
structure Line where
  /-- Its number, from one on. -/
  number : Nat
  /-- Whether it is the last one. -/
  isLast : Bool
  /-- Whether a line feed ends it. -/
  isComplete : Bool
  /-- What it holds. -/
  text : Octets

/-- The lines of a text. -/
def linesOf (cs : Octets) : List Line :=
  let (line, done) := cs.foldl
    (fun ((line, done) : Octets × List Octets) c =>
      if c = '\n' then ([], line.reverse :: done) else (c :: line, done)) ([], [])
  let all := (if line.isEmpty then done else line.reverse :: done).reverse
  all.zipIdx.map fun (text, i) =>
    let isLast := i + 1 == all.length
    ⟨i + 1, isLast, !isLast || line.isEmpty, text⟩

/-- Whether an address selects a line. -/
def Address.holds (line : Line) : Address → Bool
  | .line n => line.number == n
  | .last => line.isLast
  | .matching p => p.isIn line.text

/-- Whether a command is for a line, and whether its range is open after that line. -/
def Selection.holds (line : Line) (isOpen : Bool) : Selection → Bool × Bool
  | .all => (true, false)
  | .one a => (a.holds line, false)
  | .range a b =>
    if isOpen then
      match b with
      | .line n => (line.number ≤ n, line.number < n)
      | b => (true, !b.holds line)
    else if a.holds line then
      match b with
      | .line n => (true, line.number < n)
      | .last => (true, !line.isLast)
      | .matching _ => (true, true)
    else (false, false)

/-- What has been printed, last first, and whether a line feed is due before more is. -/
structure Printed where
  /-- The octets. -/
  octets : Octets
  /-- Whether a line feed is due. -/
  isDue : Bool

/-- Prints a line. -/
def Printed.add (p : Printed) (text : Octets) (isComplete : Bool) : Printed :=
  let octets := text.reverse ++ if p.isDue then '\n' :: p.octets else p.octets
  if isComplete then ⟨'\n' :: octets, false⟩ else ⟨octets, true⟩

/-- What follows a command. -/
inductive Next where
  /-- The next command. -/
  | command
  /-- The next line. -/
  | line
  /-- The end. -/
  | finish
  deriving DecidableEq, Repr

/-- The state while commands are carried out on a line. -/
structure Progress where
  /-- The line as it is now. -/
  line : Line
  /-- What has been printed. -/
  printed : Printed
  /-- What comes next. -/
  next : Next

/-- Does what a verb says. -/
def Progress.apply (p : Progress) : Verb → Progress
  | .substitute s prints =>
    let (text, isChanged) := s.apply p.line.text
    let printed :=
      if prints && isChanged then p.printed.add text p.line.isComplete else p.printed
    { p with line := { p.line with text }, printed }
  | .delete => { p with next := .line }
  | .print => { p with printed := p.printed.add p.line.text p.line.isComplete }
  | .number => { p with printed := p.printed.add (toString p.line.number).toList true }
  | .exchange pairs =>
    let exchanged (c : Char) : Char := ((pairs.find? (·.1 == c)).map (·.2)).getD c
    { p with line := { p.line with text := p.line.text.map exchanged } }
  | .quit => { p with next := .finish }

/-- Carries out commands, each with whether its range is open, on a line. -/
def onLine : List (Step × Bool) → Progress → List (Step × Bool) × Progress
  | [], p => ([], p)
  | (step, isOpen) :: rest, p =>
    let (holds, isOpen) := step.selection.holds p.line isOpen
    let p := if holds != step.negated then p.apply step.verb else p
    if p.next = .command then
      let (rest, p) := onLine rest p
      ((step, isOpen) :: rest, p)
    else ((step, isOpen) :: rest, p)

/-- Carries out commands on lines; with `isQuiet`, lines are printed by commands alone. -/
def onLines (isQuiet : Bool) : List (Step × Bool) → Printed → List Line → Printed
  | _, printed, [] => printed
  | steps, printed, line :: rest =>
    let (steps, p) := onLine steps ⟨line, printed, .command⟩
    let printed :=
      if isQuiet || p.next = .line then p.printed
      else p.printed.add p.line.text p.line.isComplete
    if p.next = .finish then printed else onLines isQuiet steps printed rest

/-- What the commands of a script make of a text. -/
def edit (isQuiet : Bool) (steps : List Step) (text : Octets) : Octets :=
  (onLines isQuiet (steps.map (·, false)) ⟨[], false⟩ (linesOf text)).octets.reverse

end Editor

end Shell

end ToolRelay
