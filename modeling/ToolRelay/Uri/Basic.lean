import ToolRelay.Uri.Host

/-!
# URIs

A URI as it is kept: every part in its written form, percent-encoded where it must be.
`Uri.spell` puts the parts together.
-/

namespace ToolRelay

namespace Uri

/-- The part after `//`. -/
structure Authority where
  /-- The name and password before `@`, without it. -/
  user : List Char
  /-- The host. -/
  host : Option Host
  /-- The number after the colon, unless it is the usual one. -/
  socket : Option Nat
  deriving DecidableEq, Repr

/-- The written form of an authority, with the slashes before it. -/
def Authority.spell (a : Authority) : List Char :=
  '/' :: '/' :: (if a.user = [] then [] else a.user ++ ['@']) ++
    (match a.host with
      | none => []
      | some h => h.spell) ++
    match a.socket with
      | none => []
      | some n => ':' :: Nat.toDigits 10 n

end Uri

/-- A URI. -/
structure Uri where
  /-- The scheme, in lower case. -/
  scheme : List Char
  /-- The part after `//`, if there is one. -/
  authority : Option Uri.Authority
  /-- The path. -/
  path : List Char
  /-- The query, without `?`. -/
  query : Option (List Char)
  /-- The fragment, without `#`. -/
  fragment : Option (List Char)
  deriving DecidableEq, Repr

namespace Uri

/-- The path as it is written after the authority; where there is none, a path that begins with
`//` is kept apart from what would be one. -/
def spellPath (u : Uri) : List Char :=
  match u.authority, u.path with
  | none, '/' :: '/' :: rest => '/' :: '.' :: '/' :: '/' :: rest
  | _, path => path

/-- The characters of a URI. -/
def spellChars (u : Uri) : List Char :=
  u.scheme ++ ':' ::
    (match u.authority with
      | none => []
      | some a => a.spell) ++
    u.spellPath ++
    (match u.query with
      | none => []
      | some q => '?' :: q) ++
    match u.fragment with
      | none => []
      | some f => '#' :: f

/-- The text of a URI. -/
def spell (u : Uri) : String := String.ofList u.spellChars

/-- Whether a host, as far as there is one, is this computer. -/
def isLocal (u : Uri) : Bool :=
  match u.authority with
  | none => true
  | some a =>
    match a.host with
    | none => true
    | some h => h == .name "localhost".toList

end Uri

end ToolRelay
