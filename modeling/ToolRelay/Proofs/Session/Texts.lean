import ToolRelay.Session.Basic
import Mathlib.Data.List.Induction

/-!
# The texts of documents along a history

A session tells the editor that documents are synchronized by whole texts: the text of a document
is the last one that was said of it, and each change of an event replaces the one before.
`synchronized` is that text as a fold over a history.  A session keeps the *first* text of a
change, so the two differ in one case.

* `Texts.get?_foldl_after` : what a session keeps for a document is the first text of the latest
  event about it that is not silent.
* `synchronized_eq` : what it should keep is the last one.
* `Session.saved_runs_synchronized_iff` : a document that is saved without its text is run as it
  was last said, unless that was a change whose first and last texts differ.
-/

namespace ToolRelay

namespace DocumentEvent

/-- Whether the event is about the document with a URI. -/
def isAbout (uri : Uri) (e : DocumentEvent) : Bool := e.uri.spell == uri.spell

/-- The texts an event gives to its document, one after another. -/
def texts : DocumentEvent → List String
  | .opened _ text => [text]
  | .changed _ changes => changes
  | .saved _ text => text.toList
  | .closed _ => []

/-- Whether the event says nothing about the text of its document. -/
def isSilent : DocumentEvent → Bool
  | .changed _ [] | .saved _ none => true
  | _ => false

/-- The text of the document after the event, where each change replaces the whole text. -/
def synchronize (text : Option String) : DocumentEvent → Option String
  | .opened _ new => some new
  | .changed _ changes => changes.foldl (fun _ new => some new) text
  | .saved _ new => new <|> text
  | .closed _ => none

theorem exists_head?_texts {e : DocumentEvent} {last : String}
    (h : e.texts.getLast? = some last) : ∃ first, e.texts.head? = some first := by
  cases ht : e.texts with
  | nil => simp [ht] at h
  | cons first => exact ⟨first, rfl⟩

/-- Only a change can give a document two texts at once. -/
theorem head?_texts_eq_iff {e : DocumentEvent} :
    e.texts.head? = e.texts.getLast? ↔
      ∀ u changes, e = .changed u changes → changes.head? = changes.getLast? := by
  cases e with
  | opened | closed => simp [texts]
  | changed u changes => simp [texts]
  | saved _ text => cases text <;> simp [texts]

end DocumentEvent

/-- The text of the document with a URI after a history, where each change replaces the whole
text; `text` is the one before. -/
def synchronized (uri : Uri) (text : Option String) (past : List DocumentEvent) : Option String :=
  (past.filter (·.isAbout uri)).foldl DocumentEvent.synchronize text

/-- The latest event of a history that says something about the text of a document. -/
def latest? (uri : Uri) (past : List DocumentEvent) : Option DocumentEvent :=
  (past.filter fun e => e.isAbout uri && !e.isSilent).getLast?

variable {uri : Uri} {e : DocumentEvent}

theorem latest?_concat (past : List DocumentEvent) :
    latest? uri (past ++ [e]) =
      if e.isAbout uri && !e.isSilent then some e else latest? uri past := by
  rw [latest?, List.filter_append]
  cases h : e.isAbout uri && !e.isSilent
  · simp [h, latest?]
  · simp [h]

/-! ### The last text of a history -/

theorem foldl_replace {α : Type} (a : Option α) (as : List α) :
    as.foldl (fun _ new => some new) a = if as = [] then a else as.getLast? := by
  induction as using List.reverseRecOn with
  | nil => rfl
  | append_singleton as new _ => simp

theorem synchronize_eq (text : Option String) (e : DocumentEvent) :
    e.synchronize text = if e.isSilent then text else e.texts.getLast? := by
  cases e with
  | opened | closed => rfl
  | changed _ changes =>
    rw [DocumentEvent.synchronize, foldl_replace]
    cases changes <;> rfl
  | saved _ new => cases new <;> rfl

theorem synchronized_concat (text : Option String) (past : List DocumentEvent) :
    synchronized uri text (past ++ [e]) =
      if e.isAbout uri then e.synchronize (synchronized uri text past)
      else synchronized uri text past := by
  rw [synchronized, List.filter_append]
  cases h : e.isAbout uri
  · simp [h, synchronized]
  · simp [h, synchronized]

theorem synchronized_eq (text : Option String) (past : List DocumentEvent) :
    synchronized uri text past = (latest? uri past).elim text (·.texts.getLast?) := by
  induction past using List.reverseRecOn with
  | nil => rfl
  | append_singleton past e ih =>
    rw [synchronized_concat, synchronize_eq, latest?_concat, ih]
    cases e.isAbout uri <;> cases e.isSilent <;> rfl

/-! ### The text that is kept -/

namespace Texts

theorem get?_congr (t : Texts) {other : Uri} (h : uri.spell = other.spell) :
    t.get? uri = t.get? other := by
  rw [get?, get?, h]

theorem after_of_isSilent (t : Texts) (h : e.isSilent = true) : t.after e = t := by
  cases e with
  | opened | closed => contradiction
  | changed _ changes =>
    cases changes with
    | nil => rfl
    | cons => contradiction
  | saved _ text =>
    cases text with
    | none => rfl
    | some => contradiction

theorem get?_after_uri (t : Texts) (h : e.isSilent = false) :
    (t.after e).get? e.uri = e.texts.head? := by
  cases e with
  | opened uri text => exact get?_put_self t uri text
  | closed uri => exact get?_erase_self t uri
  | changed uri changes =>
    cases changes with
    | nil => contradiction
    | cons text rest => exact get?_put_self t uri text
  | saved uri text =>
    cases text with
    | none => contradiction
    | some text => exact get?_put_self t uri text

theorem get?_after_of_not_isAbout (t : Texts) (h : e.isAbout uri = false) :
    (t.after e).get? uri = t.get? uri := by
  have hne : e.uri.spell ≠ uri.spell := by simpa [DocumentEvent.isAbout] using h
  cases e with
  | opened _ text => exact get?_put_of_ne t text hne
  | closed => exact get?_erase_of_ne t hne
  | changed _ changes =>
    cases changes with
    | nil => rfl
    | cons text => exact get?_put_of_ne t text hne
  | saved _ text =>
    cases text with
    | none => rfl
    | some text => exact get?_put_of_ne t text hne

/-- What an event changes for one document. -/
theorem get?_after (t : Texts) (e : DocumentEvent) (uri : Uri) :
    (t.after e).get? uri =
      if e.isAbout uri && !e.isSilent then e.texts.head? else t.get? uri := by
  cases ha : e.isAbout uri with
  | false => exact get?_after_of_not_isAbout t ha
  | true =>
    have heq : uri.spell = e.uri.spell := (eq_of_beq ha).symm
    cases hs : e.isSilent with
    | true => rw [after_of_isSilent t hs]; rfl
    | false => rw [get?_congr _ heq, get?_after_uri t hs]; rfl

theorem get?_foldl_after (t : Texts) (past : List DocumentEvent) (uri : Uri) :
    (past.foldl after t).get? uri = (latest? uri past).elim (t.get? uri) (·.texts.head?) := by
  induction past using List.reverseRecOn with
  | nil => rfl
  | append_singleton past e ih =>
    rw [List.foldl_append, List.foldl_cons, List.foldl_nil, get?_after, latest?_concat, ih]
    cases e.isAbout uri && !e.isSilent <;> rfl

end Texts

/-! ### Sessions -/

namespace Session

/-- A session takes what happens to documents, one event after another; each finds the outside
world in a state of its own. -/
def documents (s : Session) : List (Host × DocumentEvent) → Traced Session
  | [] => pure s
  | (host, e) :: rest => do (← s.document host e).documents rest

theorem texts_runOn (host : Host) (s : Session) (uri : Uri) (text : String) :
    (s.runOn host uri text).value.texts = s.texts := by
  simp only [runOn, Traced.value_bind]
  split <;> rfl

theorem texts_document (host : Host) (s : Session) (e : DocumentEvent) :
    (s.document host e).value.texts = s.texts.after e := by
  rw [document]
  split
  · exact texts_runOn host _ _ _
  · rfl

theorem texts_documents (s : Session) (events : List (Host × DocumentEvent)) :
    (s.documents events).value.texts = (events.map (·.2)).foldl Texts.after s.texts := by
  induction events generalizing s with
  | nil => rfl
  | cons event rest ih =>
    rw [documents, Traced.value_bind, ih, texts_document]
    rfl

theorem get?_documents (s : Session) (events : List (Host × DocumentEvent)) (uri : Uri) :
    (s.documents events).value.texts.get? uri =
      (latest? uri (events.map (·.2))).elim (s.texts.get? uri) (·.texts.head?) := by
  rw [texts_documents, Texts.get?_foldl_after]

theorem document_saved (host : Host) (s : Session) (uri : Uri) :
    s.document host (.saved uri none) =
      match s.texts.get? uri with
      | some text => s.runOn host uri text
      | none => pure s := rfl

/-- **A document that is saved without its text is run as it was last said, unless that was a
change whose first and last texts differ.**  Then its first text is run.  A document that was
closed or never seen is not run, a change without texts does nothing, and what happens to a
document leaves the texts of the others as they are. -/
theorem saved_runs_synchronized_iff (s : Session) (events : List (Host × DocumentEvent))
    (uri : Uri) :
    let past := events.map (·.2)
    let now := (s.documents events).value
    let said := synchronized uri (s.texts.get? uri) past
    (∀ text, said = some text → ∃ kept,
      (∀ host, now.document host (.saved uri none) = now.runOn host uri kept) ∧
      (kept = text ↔ ∀ u changes, latest? uri past = some (.changed u changes) →
        changes.head? = changes.getLast?) ∧
      ∀ u changes, latest? uri past = some (.changed u changes) → changes.head? = some kept) ∧
    (said = none → ∀ host, now.document host (.saved uri none) = pure now) ∧
    (∀ host u, now.document host (.changed u []) = pure now) ∧
    ∀ host e, e.isAbout uri = false →
      (now.document host e).value.texts.get? uri = now.texts.get? uri := by
  intro past now said
  have hkept : now.texts.get? uri = (latest? uri past).elim (s.texts.get? uri) (·.texts.head?) :=
    get?_documents s events uri
  have hsaid : said = (latest? uri past).elim (s.texts.get? uri) (·.texts.getLast?) :=
    synchronized_eq _ _
  refine ⟨fun text ht => ?_, fun hn host => ?_, fun _ _ => rfl, fun host e he => ?_⟩
  · cases hl : latest? uri past with
    | none =>
      rw [hl] at hkept hsaid
      refine ⟨text, fun host => ?_, by simp, nofun⟩
      rw [document_saved, hkept.trans (hsaid.symm.trans ht)]
    | some e =>
      rw [hl] at hkept hsaid
      have hlast : e.texts.getLast? = some text := hsaid.symm.trans ht
      -- the session keeps the first text of the event, the protocol the last one
      obtain ⟨kept, hfirst⟩ := DocumentEvent.exists_head?_texts hlast
      refine ⟨kept, fun host => by rw [document_saved, hkept.trans hfirst], ?_, ?_⟩
      · rw [← Option.some_inj, ← hfirst, ← hlast, DocumentEvent.head?_texts_eq_iff]
        simp only [Option.some.injEq]
      · rintro u changes ⟨rfl⟩
        exact hfirst
  · have hk : now.texts.get? uri = none := by
      cases hl : latest? uri past with
      | none => rw [hkept, hl, ← hn, hsaid, hl]; rfl
      | some e =>
        rw [hn, hl] at hsaid
        rw [hkept, hl]
        exact List.head?_eq_none_iff.2 (List.getLast?_eq_none_iff.1 hsaid.symm)
    rw [document_saved, hk]
  · rw [texts_document, Texts.get?_after_of_not_isAbout _ he]

/-- A setup whose tool gives back the text of the document. -/
def copyingSetup : Setup where
  tool := { ToolSpec.standard with module := "copy", useStdin := true }
  global := .empty
  environment := ⟨.bundled, .off, []⟩
  registry := ⟨[⟨"copy", fun call => ⟨call.stdin.getD "", "", [], none⟩⟩]⟩
  searchPath := []
  runtime := Path.ofString "/bin/relay"

/-- A document. -/
def note : Uri := ⟨"file".toList, some ⟨[], none, none⟩, "/a".toList, none, none⟩

/-- A host without files and programs. -/
def bareHost : Host where
  currentDir := .ok (Path.ofString "/")
  readFile _ := .error .notFound
  kind? _ := none
  start _ := .error .notFound

/-- Of the two texts of a change the first one is run, and not the last one. -/
theorem saved_runs_first_text :
    ¬ ∀ (s : Session) (events : List (Host × DocumentEvent)) (uri : Uri) (text : String),
      s.texts = .empty → synchronized uri none (events.map (·.2)) = some text →
      ∀ host, (s.documents events).value.document host (.saved uri none) =
        (s.documents events).value.runOn host uri text := by
  intro h
  have heq := h (start bareHost copyingSetup).value
    [(bareHost, .opened note "opened"), (bareHost, .changed note ["first", "last"])] note "last"
    rfl rfl bareHost
  have hlast := congrArg (fun t => t.messages.getLast?.map (·.text)) heq
  revert hlast
  decide +kernel

end Session

end ToolRelay
