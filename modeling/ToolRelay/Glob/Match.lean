import ToolRelay.Glob.Parse

/-!
# Matching paths

A pattern is matched against the octets of a path.  Several forms of patterns are matched in a
simpler way than token by token: as a whole text, by the beginning or the end of the path, or by
the last component or its extension.  `Plan.of` chooses the way, `Plan.accepts` goes it.

Matching token by token keeps the set of places in the path that can be reached, as a list of
truth values, one for every place from the beginning to the end.
-/

namespace ToolRelay

namespace Glob

/-! ### Token by token -/

/-- The places after one octet that satisfies `p`. -/
def stepOctet (p : UInt8 → Bool) (path : Bytes) (front : List Bool) : List Bool :=
  false :: List.zipWith (fun b r => r && p b) path front

/-- The places at or after a reachable one. -/
def stepStar (front : List Bool) : List Bool :=
  (front.foldl (fun (done, seen) r => ((seen || r) :: done, seen || r)) ([], false)).1.reverse

/-- The places after a separator. -/
def stepSeparator (path : Bytes) (front : List Bool) : List Bool :=
  stepOctet (· == 0x2F) path front

/-- The places that one of two ways reaches. -/
def joinFronts (a b : List Bool) : List Bool := List.zipWith (· || ·) a b

/-- The octets of the characters of a pattern, one after another. -/
def stepChar (c : Char) (path : Bytes) (front : List Bool) : List Bool :=
  (String.utf8EncodeChar c).foldl (fun front b => stepOctet (· == b) path front) front

/-- Whether an octet is in the range between two characters.  A range is one of octets: of its
first character the last octet counts, of its last character the first one, and the octets around
them stand for themselves. -/
def inRange (range : Char × Char) (b : UInt8) : Bool :=
  let first := String.utf8EncodeChar range.1
  let last := String.utf8EncodeChar range.2
  if range.1 = range.2 then first.contains b
  else first.contains b || last.contains b ||
    ((first.getLast?.getD 0).toNat ≤ b.toNat && b.toNat ≤ (last.head?.getD 0).toNat)

/-- Whether an octet is in a class. -/
def inClass (negated : Bool) (ranges : List (Char × Char)) (b : UInt8) : Bool :=
  ranges.any (inRange · b) != negated

mutual

/-- Whether a token stands for nothing at all. -/
def Token.isVoid : Token → Bool
  | .alternates branches => allVoid branches
  | _ => false

/-- Whether all of several patterns stand for nothing at all. -/
def allVoid : List (List Token) → Bool
  | [] => true
  | branch :: rest => areVoid branch && allVoid rest

/-- Whether all tokens stand for nothing at all. -/
def areVoid : List Token → Bool
  | [] => true
  | t :: rest => t.isVoid && areVoid rest

end

mutual

/-- The places after a token. -/
def Token.step (path : Bytes) (front : List Bool) : Token → List Bool
  | .literal c => stepChar c path front
  | .any => stepOctet (fun _ => true) path front
  | .star => stepStar front
  | .recursivePrefix_ => joinFronts front (stepSeparator path (stepStar front))
  | .recursiveSuffix => stepStar (stepSeparator path front)
  | .recursiveMiddle =>
    let next := stepSeparator path front
    joinFronts next (stepSeparator path (stepStar next))
  | .class_ negated ranges => stepOctet (inClass negated ranges) path front
  | .alternates branches =>
    if allVoid branches then front
    else stepAny path front (front.map fun _ => false) branches

/-- The places after one of several patterns, and those `reached` otherwise.  A pattern that stands
for nothing at all is no alternative. -/
def stepAny (path : Bytes) (front reached : List Bool) : List (List Token) → List Bool
  | [] => reached
  | branch :: rest =>
    if areVoid branch then stepAny path front reached rest
    else stepAny path front (joinFronts reached (stepAll path front branch)) rest

/-- The places after tokens. -/
def stepAll (path : Bytes) (front : List Bool) : List Token → List Bool
  | [] => front
  | t :: rest => stepAll path (t.step path front) rest

end

/-- Whether tokens stand for a path.  The recursive token alone stands for every path. -/
def matchTokens (tokens : List Token) (path : Bytes) : Bool :=
  match tokens with
  | [.recursivePrefix_] => true
  | tokens =>
    (stepAll path (true :: path.map fun _ => false) tokens).getLast?.getD false

/-! ### Simpler ways -/

/-- A way of matching paths. -/
inductive Plan where
  /-- The path is the text. -/
  | whole (text : Bytes)
  /-- The last component is the text. -/
  | baseName (text : Bytes)
  /-- The last component ends in the extension, which has no other dot. -/
  | extension (text : Bytes)
  /-- The path begins with the text. -/
  | beginning (text : Bytes)
  /-- The path ends with the text. -/
  | ending (text : Bytes)
  /-- The path ends with the text, or is the text without the separator it begins with. -/
  | endingComponent (text : Bytes)
  /-- The last component has the extension, and the tokens stand for the path. -/
  | withExtension (text : Bytes) (tokens : List Token)
  /-- The tokens stand for the path. -/
  | tokens (tokens : List Token)
  deriving Repr

/-- The characters of tokens that all stand for themselves. -/
def literals? : List Token → Option (List Char)
  | [] => some []
  | .literal c :: rest => (literals? rest).map (c :: ·)
  | _ :: _ => none

/-- The octets of characters. -/
def octets (cs : List Char) : Bytes := cs.flatMap String.utf8EncodeChar

/-- The text of a pattern for the last component. -/
def baseName? : List Token → Option (List Char)
  | .recursivePrefix_ :: rest =>
    match literals? rest with
    | some [] => none
    | some cs => if cs.contains '/' then none else some cs
    | none => none
  | _ => none

/-- The text of a pattern without other tokens. -/
def whole? (ts : List Token) : Option (List Char) := (literals? ts).filter (· ≠ [])

/-- The extension in tokens after the point. -/
def extensionAfter? : List Token → Option (List Char)
  | .star :: .literal '.' :: rest =>
    match literals? rest with
    | some cs => if cs.contains '.' || cs.contains '/' then none else some ('.' :: cs)
    | none => none
  | _ => none

/-- The extension of a pattern for an extension. -/
def extension? : List Token → Option (List Char)
  | .recursivePrefix_ :: rest => extensionAfter? rest
  | ts => extensionAfter? ts

/-- The text of a pattern for the beginning. -/
def beginning? (ts : List Token) : Option (List Char) :=
  let text := match ts.getLast? with
    | some .star => literals? ts.dropLast
    | some .recursiveSuffix => (literals? ts.dropLast).map (· ++ ['/'])
    | _ => literals? ts
  text.filter (· ≠ [])

/-- Drops a star at the beginning. -/
def dropStar : List Token → List Token
  | .star :: rest => rest
  | ts => ts

/-- The text of a pattern for the end, and whether it is for whole components. -/
def ending? (ts : List Token) : Option (List Char × Bool) :=
  let (text, component) := match ts with
    | .recursivePrefix_ :: .literal c :: rest =>
      ((literals? (.literal c :: rest)).map ('/' :: ·), true)
    | .recursivePrefix_ :: [] => (none, false)
    | .recursivePrefix_ :: rest => (literals? (dropStar rest), false)
    | [] => (none, false)
    | ts => (if ts = [] then none else literals? (dropStar ts), false)
  match text with
  | none => none
  | some cs => if cs = [] ∨ cs = ['/'] then none else some (cs, component)

/-- The extension that a path must have for the tokens, which are given last first. -/
def requiredExtension? (done : List Char) : List Token → Option (List Char)
  | .literal c :: rest =>
    if c = '/' then none
    else if c = '.' then some (c :: done)
    else requiredExtension? (c :: done) rest
  | _ => none

/-- The way of matching a pattern: the first that is possible. -/
def Plan.of (ts : List Token) : Plan :=
  match baseName? ts with
  | some cs => .baseName (octets cs)
  | none =>
  match whole? ts with
  | some cs => .whole (octets cs)
  | none =>
  match extension? ts with
  | some cs => .extension (octets cs)
  | none =>
  match beginning? ts with
  | some cs => .beginning (octets cs)
  | none =>
  match ending? ts with
  | some (cs, true) => .endingComponent (octets cs)
  | some (cs, false) => .ending (octets cs)
  | none =>
  match requiredExtension? [] ts.reverse with
  | some cs => .withExtension (octets cs) ts
  | none => .tokens ts

/-- The last component of a path: what follows the last separator.  The step to the parent
directory names nothing, so a path that ends in it has none. -/
def lastComponent (path : Bytes) : Bytes :=
  let name := (path.reverse.takeWhile (· ≠ 0x2F)).reverse
  if name = [0x2E, 0x2E] then [] else name

/-- The extension of a path, with its point; empty if there is none. -/
def extensionOf (path : Bytes) : Bytes :=
  let name := lastComponent path
  if name.contains 0x2E then 0x2E :: (name.reverse.takeWhile (· ≠ 0x2E)).reverse else []

/-- Whether a path is accepted. -/
def Plan.accepts (plan : Plan) (path : Bytes) : Bool :=
  match plan with
  | .whole text => path == text
  | .baseName text => lastComponent path == text && !text.isEmpty
  | .extension text => extensionOf path == text && !text.isEmpty
  | .beginning text => text.isPrefixOf path
  | .ending text => text.isSuffixOf path
  | .endingComponent text => text.isSuffixOf path || path == text.drop 1
  | .withExtension text ts => extensionOf path == text && matchTokens ts path
  | .tokens ts => matchTokens ts path

end Glob

end ToolRelay
