import ToolRelay.Uri.Parse

/-!
# The texts of open documents

The editor tells a session about its documents by events.  `Texts` keeps the text of each document
that is open, under its URI; `Texts.after` says what an event changes and `Texts.toRun` on which
text, if any, the tool runs because of it.

* `get?_put_self`, `get?_put_of_ne`, `get?_erase_self`, `get?_erase_of_ne`: texts are kept apart
  by URI.
-/

namespace ToolRelay

/-- What happened to a document. -/
inductive DocumentEvent where
  /-- It was opened. -/
  | opened (uri : Uri) (text : String)
  /-- It was changed; each change holds a whole text. -/
  | changed (uri : Uri) (changes : List String)
  /-- It was saved; the event may hold the text. -/
  | saved (uri : Uri) (text : Option String)
  /-- It was closed. -/
  | closed (uri : Uri)
  deriving DecidableEq, Repr

/-- The URI of the document. -/
def DocumentEvent.uri : DocumentEvent → Uri
  | .opened uri _ | .changed uri _ | .saved uri _ | .closed uri => uri

/-- The texts of open documents. -/
structure Texts where
  /-- The spelled URIs and the texts. -/
  entries : List (String × String)
  deriving DecidableEq, Repr

namespace Texts

/-- No open document. -/
def empty : Texts := ⟨[]⟩

/-- The text of the document with a URI. -/
def get? (t : Texts) (uri : Uri) : Option String :=
  (t.entries.find? (·.1 == uri.spell)).map (·.2)

/-- The texts without that of a document. -/
def erase (t : Texts) (uri : Uri) : Texts := ⟨t.entries.filter (·.1 != uri.spell)⟩

/-- The texts with a new one for a document. -/
def put (t : Texts) (uri : Uri) (text : String) : Texts :=
  ⟨(uri.spell, text) :: (t.erase uri).entries⟩

/-- The texts after an event.  Of several changes the first one counts. -/
def after (t : Texts) : DocumentEvent → Texts
  | .opened uri text => t.put uri text
  | .changed uri (text :: _) => t.put uri text
  | .changed _ [] => t
  | .saved uri (some text) => t.put uri text
  | .saved _ none => t
  | .closed uri => t.erase uri

/-- The text on which the tool runs because of an event. -/
def toRun (t : Texts) : DocumentEvent → Option String
  | .opened _ text => some text
  | .changed _ _ => none
  | .saved _ (some text) => some text
  | .saved uri none => t.get? uri
  | .closed _ => none

/-! ### Texts are kept apart by URI -/

@[simp]
theorem get?_empty (uri : Uri) : empty.get? uri = none := rfl

@[simp]
theorem get?_put_self (t : Texts) (uri : Uri) (text : String) :
    (t.put uri text).get? uri = some text := by
  simp [get?, put]

theorem get?_erase_self (t : Texts) (uri : Uri) : (t.erase uri).get? uri = none := by
  simp [get?, erase, List.find?_filter]

theorem get?_erase_of_ne (t : Texts) {uri other : Uri} (h : uri.spell ≠ other.spell) :
    (t.erase uri).get? other = t.get? other := by
  simp only [get?, erase, List.find?_filter]
  congr 2
  funext entry
  by_cases hs : entry.1 = other.spell
  · simp [hs, Ne.symm h]
  · simp [hs]

theorem get?_put_of_ne (t : Texts) {uri other : Uri} (text : String)
    (h : uri.spell ≠ other.spell) : (t.put uri text).get? other = t.get? other := by
  rw [← get?_erase_of_ne t h]
  simp [get?, put, h]

end Texts

end ToolRelay
