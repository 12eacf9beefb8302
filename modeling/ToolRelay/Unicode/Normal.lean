import ToolRelay.Unicode.Decomposition

/-!
# The composed normal form

One text can be spelled in several ways: with a character that has an accent, or with a letter and
the accent after it.  `Unicode.compose` gives the normal form C, in which every character is put
together from its parts as far as it can be: first all characters are taken apart, then the marks
after each letter are put into the order of their classes, and then a letter takes up the marks that
go together with it.

The syllables of Korean are put together by counting, all others by the tables.
-/

namespace ToolRelay

namespace Unicode

/-! ### Taking apart -/

/-- The parts of a syllable of Korean: the sound it begins with, the vowel and what it ends with. -/
def syllableParts (n : Nat) : List Char :=
  let k := n - 0xAC00
  let first := Char.ofNat (0x1100 + k / 588)
  let vowel := Char.ofNat (0x1161 + k % 588 / 28)
  if k % 28 = 0 then [first, vowel] else [first, vowel, Char.ofNat (0x11A7 + k % 28)]

/-- The parts of a character, whose parts may have parts again; they do so at most `depth` times. -/
def decomposeChar : (depth : Nat) → Char → List Char
  | 0, c => [c]
  | depth + 1, c =>
    if 0xAC00 ≤ c.toNat ∧ c.toNat ≤ 0xD7A3 then syllableParts c.toNat
    else
      match decompositions.row? c with
      | none => [c]
      | some r => (r.image.map Char.ofNat).flatMap (decomposeChar depth)

/-- The parts of all characters. -/
def decompose (cs : List Char) : List Char := cs.flatMap (decomposeChar 8)

/-! ### The order of marks -/

/-- The class of a mark; zero for a character that no mark can pass. -/
def combiningClass (c : Char) : Nat :=
  match combiningClasses.row? c with
  | none => 0
  | some r => r.image.headD 0

/-- Puts a mark of the class `k` among marks, last first, behind those of its class. -/
def insertMark (c : Char) (k : Nat) : List (Char × Nat) → List (Char × Nat)
  | [] => [(c, k)]
  | (d, l) :: rest => if k < l then (d, l) :: insertMark c k rest else (c, k) :: (d, l) :: rest

/-- Puts the marks after each letter into order and says the class of every character, where
`finished` is what is done and `marks` are the marks since the last letter, both last first. -/
def orderMarks (finished marks : List (Char × Nat)) : List Char → List (Char × Nat)
  | [] => (marks ++ finished).reverse
  | c :: rest =>
    let k := combiningClass c
    if k = 0 then orderMarks ((c, 0) :: (marks ++ finished)) [] rest
    else orderMarks finished (insertMark c k marks) rest

/-! ### Putting together -/

/-- The character that two sounds of Korean make. -/
def composeSyllable? (c d : Char) : Option Char :=
  let m := c.toNat
  let n := d.toNat
  if 0x1100 ≤ m ∧ m ≤ 0x1112 ∧ 0x1161 ≤ n ∧ n ≤ 0x1175 then
    some (Char.ofNat (0xAC00 + ((m - 0x1100) * 21 + (n - 0x1161)) * 28))
  else if 0xAC00 ≤ m ∧ m ≤ 0xD7A3 ∧ (m - 0xAC00) % 28 = 0 ∧ 0x11A8 ≤ n ∧ n ≤ 0x11C2 then
    some (Char.ofNat (m + (n - 0x11A7)))
  else none

/-- The pairs of characters that make one, with the one they make. -/
def composites : List (Nat × Nat × Nat) :=
  decompositions.rows.toList.filterMap fun r =>
    match r.image with
    | [c, d] => if (separate.row? (Char.ofNat r.first)).isSome then none else some (c, d, r.first)
    | _ => none

/-- The character that two characters make. -/
def composePair? (c d : Char) : Option Char :=
  if d.toNat < 0x300 then none
  else
    match composeSyllable? c d with
    | some e => some e
    | none =>
      (composites.find? fun (m, n, _) => m == c.toNat && n == d.toNat).map
        fun (_, _, e) => Char.ofNat e

/-- Text while it is put together. -/
structure Composer where
  /-- What is finished, last first. -/
  finished : List Char
  /-- The letter that takes up marks. -/
  letter : Option Char
  /-- The marks after it that it has not taken up, last first. -/
  marks : List (Char × Nat)
  deriving Repr

/-- Nothing put together yet. -/
def Composer.start : Composer := ⟨[], none, []⟩

/-- The text so far, last first. -/
def Composer.text (s : Composer) : List Char :=
  s.marks.map Prod.fst ++ s.letter.toList ++ s.finished

/-- Appends a character of the class `k`.  A mark of the same class, or a letter, stands in the way
of the characters after it. -/
def Composer.step (s : Composer) (next : Char × Nat) : Composer :=
  let (c, k) := next
  let free := match s.marks with
    | [] => true
    | (_, l) :: _ => decide (l < k)
  match s.letter.bind fun letter => if free then composePair? letter c else none with
  | some letter => { s with letter := some letter }
  | none =>
    if k = 0 then ⟨s.text, some c, []⟩
    else { s with marks := next :: s.marks }

/-- The normal form C of a text. -/
def compose (cs : List Char) : List Char :=
  (((orderMarks [] [] (decompose cs)).foldl Composer.step Composer.start).text).reverse

end Unicode

end ToolRelay
