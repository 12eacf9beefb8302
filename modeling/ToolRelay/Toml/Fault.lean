import ToolRelay.Toml.Basic

/-!
# Complaints about a TOML document

A `Toml.Fault` is a complaint with the stretch of text that it is about.  `Fault.report` shows the
first line of that stretch and marks it; columns count characters.
-/

namespace ToolRelay

namespace Toml

/-- A complaint about a stretch of a document. -/
structure Fault where
  /-- What is wrong. -/
  complaint : Complaint
  /-- The stretch that is wrong. -/
  span : Span
  deriving DecidableEq, Repr

/-- The lines of a text, of which there is one more than line feeds. -/
def linesOf (s : List Char) : List (List Char) :=
  let (line, rest) := s.foldr
    (fun c (line, rest) => if c = '\n' then ([], line :: rest) else (c :: line, rest)) ([], [])
  line :: rest

/-- How many octets the characters take. -/
def octetsOf (cs : List Char) : Nat := cs.foldl (fun n c => n + c.utf8Size) 0

/-- The characters of a text before the octet `index`. -/
def charsBefore (index : Nat) (s : List Char) : List Char :=
  (s.foldl (fun (offset, before) c =>
      (offset + c.utf8Size, if offset < index then c :: before else before))
    (0, [])).2.reverse

/-- The complaint with the line it is about, marked. -/
def Fault.report (f : Fault) (source : String) : String :=
  let before := linesOf (charsBefore f.span.start source.toList)
  let number := before.length
  let column := (before.getLastD []).length
  let line := (linesOf source.toList).getD (number - 1) []
  let marked := max 1 (min (f.span.stop - f.span.start) (octetsOf line - column))
  let margin := String.ofList (List.replicate ((toString number).length + 1) ' ')
  "TOML parse error at line " ++ toString number ++ ", column " ++ toString (column + 1) ++ "\n" ++
    margin ++ "|\n" ++
    toString number ++ " | " ++ String.ofList line ++ "\n" ++
    margin ++ "|" ++ String.ofList (List.replicate (column + 1) ' ') ++
      String.ofList (List.replicate marked '^') ++ "\n" ++
    f.complaint.message ++ "\n"

end Toml

end ToolRelay
