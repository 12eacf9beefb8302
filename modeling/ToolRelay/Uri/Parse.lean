import ToolRelay.Uri.Basic

/-!
# Reading URIs

A URI is read the way browsers read one: blanks around it and line breaks and tabs inside it are
dropped, a backslash counts as a slash in the schemes that everybody knows, `.` and `..` in the
path are resolved, and what must be encoded is.

A drive letter at the beginning of a path, such as `C:`, is never taken back by `..`.  A line break
or tab right after it is not quite without effect: it separates the drive letter from what follows.
-/

namespace ToolRelay

namespace Uri

/-- The kinds of schemes. -/
inductive SchemeKind where
  /-- Files of this computer. -/
  | file
  /-- A scheme of the internet that everybody knows, with the usual number after the colon. -/
  | known (socket : Nat)
  /-- Any other scheme. -/
  | other
  deriving DecidableEq, Repr

/-- The kind of a scheme. -/
def SchemeKind.ofScheme (scheme : List Char) : SchemeKind :=
  match String.ofList scheme with
  | "file" => .file
  | "http" => .known 80
  | "ws" => .known 80
  | "https" => .known 443
  | "wss" => .known 443
  | "ftp" => .known 21
  | _ => .other

/-- Whether a scheme is one that everybody knows. -/
def SchemeKind.isSpecial (k : SchemeKind) : Bool := k != .other

/-- Whether a character separates parts of the path. -/
def isSlash (k : SchemeKind) (c : Char) : Bool := c == '/' || (k.isSpecial && c == '\\')

/-- Whether a character ends the authority. -/
def endsAuthority (k : SchemeKind) (c : Char) : Bool := isSlash k c || c == '?' || c == '#'

/-! ### Characters without effect -/

/-- Whether a character is dropped inside a URI. -/
def isDropped (c : Char) : Bool := c == '\t' || c == '\n' || c == '\r'

/-- The characters that count. -/
def relevant (cs : List Char) : List Char := cs.filter (!isDropped ·)

/-- The first character that counts, and what comes after it. -/
def next? (cs : List Char) : Option (Char × List Char) :=
  match cs.dropWhile isDropped with
  | [] => none
  | c :: rest => some (c, rest)

/-! ### Paths -/

/-- Whether a character is a letter of ASCII. -/
def isLetter (c : Char) : Bool :=
  (0x41 ≤ c.toNat && c.toNat ≤ 0x5A) || (0x61 ≤ c.toNat && c.toNat ≤ 0x7A)

/-- Whether a segment is a drive letter. -/
def isDrive (segment : List Char) : Bool :=
  match segment with
  | [c, d] => isLetter c && (d == ':' || d == '|')
  | _ => false

/-- What a segment of a path says. -/
inductive Segment where
  /-- Stay here. -/
  | here
  /-- Go up. -/
  | up
  /-- Go down. -/
  | down
  deriving DecidableEq, Repr

/-- How many dots a segment consists of, where a dot may be encoded; `none` for other segments. -/
def dots? : List Char → Option Nat
  | [] => some 0
  | '%' :: '2' :: e :: rest => if e = 'e' ∨ e = 'E' then (dots? rest).map (· + 1) else none
  | '.' :: rest => (dots? rest).map (· + 1)
  | _ :: _ => none

/-- What a segment says. -/
def Segment.of (segment : List Char) : Segment :=
  match dots? segment with
  | some 1 => .here
  | some 2 => .up
  | _ => .down

/-- A path while it is read: the segments that a slash follows, last first, and whether the path
has begun with a slash. -/
structure Trail where
  /-- The segments that a slash follows, last first. -/
  done : List (List Char)
  /-- Whether there is a slash at the beginning. -/
  rooted : Bool
  /-- Whether a drive letter has displaced the host. -/
  displaced : Bool
  deriving Repr

/-- The written form of the segments so far. -/
def Trail.spell (t : Trail) : List Char :=
  if t.rooted then '/' :: t.done.reverse.flatMap (· ++ ['/']) else []

/-- A drive letter is kept; any other segment is taken back. -/
def Trail.up (t : Trail) : Trail :=
  match t.done with
  | [] => t
  | s :: rest => if isDrive s then t else { t with done := rest }

/-- Goes down into a segment, which a slash follows or which is the last one. -/
def Trail.enter (t : Trail) (segment : List Char) (slash : Bool) : Trail × List Char :=
  if slash then ({ t with done := segment :: t.done }, []) else (t, segment)

/-- The characters of a segment as they are written. -/
def spellSegment (raw : List Char) : List Char :=
  (relevant raw).flatMap (Percent.encodeChar Percent.inPath)

/-- A drive letter at the beginning of a segment with a dropped character after it, and the rest of
the segment, if there is any. -/
def brokenDrive? (raw : List Char) : Option (List Char × List Char) := do
  let (letter, rest) ← next? raw
  let (colon, rest) ← next? rest
  let (first, more) ← next? rest
  if isLetter letter && colon == ':' && (rest.head?.map isDropped).getD false then
    some ([letter, ':'], first :: more)
  else none

/-- The drive letter that a segment breaks into, if it is the first one of the path of a file. -/
def Trail.brokenDrive? (k : SchemeKind) (t : Trail) (raw : List Char) :
    Option (List Char × List Char) :=
  if k = .file ∧ t.rooted = true ∧ t.done = [] then Uri.brokenDrive? raw else none

/-- Reads the segment `raw`, which a slash follows or which is the last one.  The last one comes
apart, so that the path is the spelled trail and what comes apart. -/
def Trail.step (k : SchemeKind) (t : Trail) (raw : List Char) (slash : Bool) :
    Trail × List Char :=
  match t.brokenDrive? k raw with
  | some (drive, rest) => (t.enter drive true).1.enter (spellSegment rest) slash
  | none =>
    let segment := spellSegment raw
    if t.rooted then
      match Segment.of segment with
      | .up => (t.up, [])
      | .here => (t, [])
      | .down =>
        let drive := k = .file ∧ t.done = [] ∧ isDrive segment = true
        let segment := if drive then segment.take 1 ++ [':'] else segment
        { t with displaced := t.displaced || decide drive }.enter segment slash
    else ({ t with rooted := slash }, segment)

/-- Reads the pieces of a path between slashes. -/
def Trail.read (k : SchemeKind) (t : Trail) : List (List Char) → Trail × List Char
  | [] => (t, [])
  | [raw] => t.step k raw false
  | raw :: rest => read k (t.step k raw true).1 rest

/-- The path that `cs` spells, where `rooted` says that its first slash is behind, and whether a
drive letter displaces the host.  The path of a file begins with a single slash. -/
def readPath (k : SchemeKind) (rooted : Bool) (cs : List Char) : List Char × Bool :=
  let (t, last) := Trail.read k ⟨[], rooted, false⟩ (Text.pieces (isSlash k) cs)
  let path := t.spell ++ last
  (if k = .file then '/' :: path.dropWhile (· == '/') else path, t.displaced)

/-! ### Query and fragment -/

/-- Cuts at the first character that satisfies `p`, which begins the second part. -/
def cutAt (p : Char → Bool) (cs : List Char) : List Char × List Char :=
  (cs.takeWhile (!p ·), cs.dropWhile (!p ·))

/-- The query and the fragment in what comes after the path. -/
def readTail (k : SchemeKind) (cs : List Char) : Option (List Char) × Option (List Char) :=
  let (query, fragment) := cutAt (· == '#') cs
  let set := if k.isSpecial then Percent.inSpecialQuery else Percent.inQuery
  let query := match query with
    | '?' :: q => some (q.flatMap (Percent.encodeChar set))
    | _ => none
  let fragment := match fragment with
    | '#' :: f => some (f.flatMap (Percent.encodeChar Percent.inFragment))
    | _ => none
  (query, fragment)

/-- Cuts what comes after the authority into the path and the rest. -/
def cutPath (cs : List Char) : List Char × List Char := cutAt (fun c => c == '?' || c == '#') cs

/-! ### Authority -/

/-- Cuts at the last `@`, which is dropped; `none` if there is none. -/
def cutAtSign (cs : List Char) : Option (List Char × List Char) :=
  let host := (cs.reverse.takeWhile (· ≠ '@')).reverse
  if host.length = cs.length then none
  else some (cs.take (cs.length - host.length - 1), host)

/-- The written form of name and password. -/
def readUser (cs : List Char) : List Char :=
  let (name, password) := cutAt (· == ':') cs
  let encode := List.flatMap (Percent.encodeChar Percent.inUserInfo)
  match password with
  | ':' :: p :: ps => encode name ++ ':' :: encode (p :: ps)
  | _ => encode name

/-- Cuts at the first colon that is not between brackets; the colon begins the second part. -/
def cutSocket (cs : List Char) : List Char × List Char :=
  go false [] cs
where
  /-- Reads on, inside brackets or not, after `seen`, last first. -/
  go (inside : Bool) (seen : List Char) : List Char → List Char × List Char
    | [] => (seen.reverse, [])
    | c :: rest =>
      if c = ':' ∧ inside = false then (seen.reverse, c :: rest)
      else go (if c = '[' then true else if c = ']' then false else inside) (c :: seen) rest

/-- The number that is written after the colon, and what comes after it: in a scheme that nobody
knows a backslash ends the number and begins the path. -/
def readSocket (k : SchemeKind) (cs : List Char) : Except Flaw (Option Nat × List Char) :=
  let (ds, rest) := cutAt (!isDigit 10 ·) cs
  let n := ofDigits 10 ds
  if n ≥ 0x10000 then .error .badSocket
  else if rest ≠ [] ∧ ¬ (k = .other ∧ rest.head? = some '\\') then .error .badSocket
  else if ds = [] ∨ k = .known n then .ok (none, rest)
  else .ok (some n, rest)

/-- The authority in `cs`, the text after the slashes; `after` is what comes after it. -/
def readAuthority (k : SchemeKind) (cs : List Char) : Except Flaw (Authority × List Char) := do
  let (authority, after) := cutAt (endsAuthority k) cs
  let (user, rest) ← match cutAtSign authority with
    | none => .ok ([], authority)
    | some ([], rest) =>
      if rest = [] ∧ after ≠ [] then .error .noHost else .ok ([], rest)
    | some (user, rest) => .ok (readUser user, rest)
  let (host, socket) := cutSocket rest
  if host = [] then
    if k.isSpecial ∨ socket ≠ [] ∨ user ≠ [] then throw Flaw.noHost
    else return (⟨user, none, none⟩, after)
  else
    let host ← if k.isSpecial then Host.ofText host else Host.ofPlainText host
    let (socket, rest) ← readSocket k (socket.drop 1)
    return (⟨user, some host, socket⟩, rest ++ after)

/-! ### The parts together -/

/-- The URI of a scheme with an authority, from the text after the slashes. -/
def readWithAuthority (k : SchemeKind) (scheme cs : List Char) : Except Flaw Uri := do
  let (authority, after) ← readAuthority k cs
  let (path, rest) := cutPath after
  let (query, fragment) := readTail k rest
  let slash := (path.head?.map (isSlash k)).getD false
  let path :=
    if k.isSpecial then (readPath k true (if slash then path.drop 1 else path)).1
    else (readPath k (path ≠ [] && !slash) path).1
  return ⟨scheme, some authority, path, query, fragment⟩

/-- The URI of a file of this computer, from the text of its path; a slash has been read already if
`rooted` says so. -/
def readLocal (scheme : List Char) (rooted : Bool) (cs : List Char) : Uri :=
  let (path, tail) := cutPath cs
  let (path, _) := readPath .file rooted path
  let (query, fragment) := readTail .file (relevant tail)
  ⟨scheme, some ⟨[], none, none⟩, path, query, fragment⟩

/-- The URI of a file, from the text after the slashes.  What could be a host is the first segment
of the path if it is a drive letter. -/
def readFileHost (scheme cs : List Char) : Except Flaw Uri := do
  let (host, after) := cutAt (endsAuthority .file) cs
  let host := relevant host
  if isDrive host then return readLocal scheme true cs
  else if host = [] then return readLocal scheme true after
  else
    let host ← Host.ofText host
    if host = .name "localhost".toList then return readLocal scheme true after
    else
      let (path, tail) := cutPath after
      let (path, displaced) := readPath .file true (path.drop 1)
      let (query, fragment) := readTail .file (relevant tail)
      return ⟨scheme, some ⟨[], if displaced then none else some host, none⟩, path, query, fragment⟩

/-- The URI of a file, from the text after the scheme. -/
def readFile (scheme cs : List Char) : Except Flaw Uri :=
  match next? cs with
  | none => .ok (readLocal scheme true cs)
  | some (a, rest) =>
    if isSlash .file a then
      match next? rest with
      | some (b, more) =>
        if isSlash .file b then readFileHost scheme more else .ok (readLocal scheme false cs)
      | none => .ok (readLocal scheme false cs)
    else .ok (readLocal scheme true cs)

/-- The URI of a scheme that nobody knows, without authority. -/
def readPlain (scheme cs : List Char) : Uri :=
  let (path, rest) := cutPath cs
  let (query, fragment) := readTail .other rest
  let path :=
    match path with
    | '/' :: _ => (readPath .other false path).1
    | path => path.flatMap (Percent.encodeChar Percent.controls)
  ⟨scheme, none, path, query, fragment⟩

/-- Whether a character is blank at the ends of a URI. -/
def isMargin (c : Char) : Bool := c.toNat ≤ 0x20

/-- A text without its margins. -/
def trim (cs : List Char) : List Char :=
  ((cs.dropWhile isMargin).reverse.dropWhile isMargin).reverse

/-- Whether a character can stand in a scheme after the first one. -/
def inScheme (c : Char) : Bool :=
  isLetter c || isDigit 10 c || c == '+' || c == '-' || c == '.'

/-- Cuts off the scheme, put into lower case, and the colon after it. -/
def cutScheme (cs : List Char) : Option (List Char × List Char) :=
  match cutAt (fun c => !inScheme c && !isDropped c) cs with
  | (scheme, ':' :: rest) =>
    match relevant scheme with
    | [] => none
    | c :: more => if isLetter c then some ((c :: more).map Char.toLower, rest) else none
  | _ => none

/-- The URI that a text spells. -/
def parse (s : String) : Except Flaw Uri :=
  match cutScheme (trim s.toList) with
  | none => .error .noScheme
  | some (scheme, rest) =>
    match SchemeKind.ofScheme scheme with
    | .file => readFile scheme rest
    | .known socket =>
      readWithAuthority (.known socket) scheme
        ((relevant rest).dropWhile (isSlash (.known socket)))
    | .other =>
      match relevant rest with
      | '/' :: '/' :: rest => readWithAuthority .other scheme rest
      | rest => .ok (readPlain scheme rest)

end Uri

end ToolRelay
