/-!
# UTF-8 octets

A byte sequence is read by a machine that keeps the octets of the character it is in the middle
of.  An octet that cannot continue that character ends it as a *flaw* and is then read afresh, so
every flaw is as long as it can be and no octet is lost.

* `Utf8.pieces` cuts a byte sequence into characters and flaws.
* `Utf8.decode?` reads a sequence without flaws; `Utf8.lossy` replaces each flaw by U+FFFD.
* `Utf8.encode` is the inverse of `decode?` on texts.
* `Utf8.firstFlaw?` says where strict decoding stops, and in which words.
-/

namespace ToolRelay

/-- A sequence of octets. -/
abbrev Bytes := List UInt8

namespace Utf8

/-- What a byte sequence is cut into. -/
inductive Piece where
  /-- A well-formed character. -/
  | char (c : Char)
  /-- Octets that are no character, with octets after them or not. -/
  | flaw (bytes : Bytes)
  /-- The start of a character, cut off by the end of the sequence. -/
  | cut (bytes : Bytes)
  deriving DecidableEq, Repr

/-- Where the machine stands between two octets. -/
structure State where
  /-- Octets of the unfinished character, last first; empty between characters. -/
  pending : Bytes
  /-- How many octets the unfinished character still needs. -/
  need : Nat
  /-- Least octet allowed next. -/
  low : Nat
  /-- Greatest octet allowed next. -/
  high : Nat
  /-- The bits of the code point gathered so far. -/
  value : Nat
  /-- The pieces already found, last first. -/
  found : List Piece
  deriving Repr

/-- The state before the first octet. -/
def State.start : State := ⟨[], 0, 0x80, 0xBF, 0, []⟩

/-- Reads the first octet of a character. -/
def State.lead (found : List Piece) (b : UInt8) : State :=
  let n := b.toNat
  if n ≤ 0x7F then ⟨[], 0, 0x80, 0xBF, 0, .char (Char.ofNat n) :: found⟩
  else if n < 0xC2 then ⟨[], 0, 0x80, 0xBF, 0, .flaw [b] :: found⟩
  else if n ≤ 0xDF then ⟨[b], 1, 0x80, 0xBF, n - 0xC0, found⟩
  else if n = 0xE0 then ⟨[b], 2, 0xA0, 0xBF, 0, found⟩
  else if n = 0xED then ⟨[b], 2, 0x80, 0x9F, 0xD, found⟩
  else if n ≤ 0xEF then ⟨[b], 2, 0x80, 0xBF, n - 0xE0, found⟩
  else if n = 0xF0 then ⟨[b], 3, 0x90, 0xBF, 0, found⟩
  else if n ≤ 0xF3 then ⟨[b], 3, 0x80, 0xBF, n - 0xF0, found⟩
  else if n = 0xF4 then ⟨[b], 3, 0x80, 0x8F, 4, found⟩
  else ⟨[], 0, 0x80, 0xBF, 0, .flaw [b] :: found⟩

/-- Reads one octet: it continues the unfinished character, or ends it as a flaw and starts the
next one. -/
def State.step (s : State) (b : UInt8) : State :=
  if s.need = 0 then State.lead s.found b
  else if s.low ≤ b.toNat ∧ b.toNat ≤ s.high then
    let value := s.value * 64 + (b.toNat - 0x80)
    if s.need = 1 then ⟨[], 0, 0x80, 0xBF, 0, .char (Char.ofNat value) :: s.found⟩
    else ⟨b :: s.pending, s.need - 1, 0x80, 0xBF, value, s.found⟩
  else State.lead (.flaw s.pending.reverse :: s.found) b

/-- The pieces found when the sequence ends here. -/
def State.finish (s : State) : List Piece :=
  if s.need = 0 then s.found.reverse else (.cut s.pending.reverse :: s.found).reverse

/-- A byte sequence cut into characters and flaws. -/
def pieces (bs : Bytes) : List Piece := (bs.foldl State.step State.start).finish

/-- The octets of a piece. -/
def Piece.bytes : Piece → Bytes
  | .char c => String.utf8EncodeChar c
  | .flaw bs => bs
  | .cut bs => bs

/-- The character that stands for a piece when flaws are replaced. -/
def Piece.shown : Piece → Char
  | .char c => c
  | _ => '\uFFFD'

/-- The character of a piece that is one. -/
def Piece.char? : Piece → Option Char
  | .char c => some c
  | _ => none

/-- The octets of a text. -/
def encode (s : String) : Bytes := s.toList.flatMap String.utf8EncodeChar

/-- The text of a byte sequence, each flaw replaced by U+FFFD. -/
def lossy (bs : Bytes) : String := String.ofList ((pieces bs).map Piece.shown)

/-- The text of a byte sequence, if it has no flaw. -/
def decode? (bs : Bytes) : Option String := ((pieces bs).mapM Piece.char?).map String.ofList

/-- Where strict decoding stops. -/
structure Flaw where
  /-- How many octets come before. -/
  index : Nat
  /-- How long the flaw is, or `none` when the sequence ends inside a character. -/
  length : Option Nat
  deriving DecidableEq, Repr

/-- The flaw in words. -/
def Flaw.message (f : Flaw) : String :=
  match f.length with
  | some n => s!"invalid utf-8 sequence of {n} bytes from index {f.index}"
  | none => s!"incomplete utf-8 byte sequence from index {f.index}"

/-- The first flaw among `ps`, which start `index` octets into the sequence. -/
def firstFlawFrom (index : Nat) : List Piece → Option Flaw
  | [] => none
  | .char c :: ps => firstFlawFrom (index + (String.utf8EncodeChar c).length) ps
  | .flaw bs :: _ => some ⟨index, some bs.length⟩
  | .cut _ :: _ => some ⟨index, none⟩

/-- The first flaw of a byte sequence, if it has one. -/
def firstFlaw? (bs : Bytes) : Option Flaw := firstFlawFrom 0 (pieces bs)

end Utf8

end ToolRelay
