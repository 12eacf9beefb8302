import Mathlib.Tactic.SplitIfs
import ToolRelay.Proofs.Dispatch.Execute
import ToolRelay.Proofs.Output.Channel

/-!
# Documents that are left out

There are four reasons to leave a document out, and they are tried in a fixed order: what a later
one says about a document does not matter (`Preparation.Decides`).  None of them looks at the way
in which the tool would be run.

* `Preparation.skip?_document_iff` : the reason that is given is the first one that applies.
* `Preparation.deeds_document` : preparing a run sets nothing going.
* `Dispatcher.document_left_out` : a document is passed over without a run exactly if there is a
  reason, and in silence unless its text does not pass the check.
-/

namespace ToolRelay

/-- Nothing comes of a computation, on the way to its value, but notes in the diagnostic log. -/
structure Traced.Quiet {α : Type} (x : Traced α) : Prop where
  /-- Nothing is said to the editor. -/
  messages_eq_nil : x.messages = []
  /-- Nothing is set going. -/
  deeds_eq_nil : x.deeds = []

namespace Traced

variable {α β : Type} {x : Traced α} {f : α → Traced β}

theorem quiet_pure (a : α) : (pure a : Traced α).Quiet := ⟨rfl, rfl⟩

theorem Quiet.messages_bind (h : x.Quiet) : (x >>= f).messages = (f x.value).messages := by
  rw [Traced.messages_bind, h.messages_eq_nil, List.nil_append]

theorem Quiet.bind (h : x.Quiet) (h' : (f x.value).Quiet) : (x >>= f).Quiet where
  messages_eq_nil := h.messages_bind.trans h'.messages_eq_nil
  deeds_eq_nil := by rw [deeds_bind, h.deeds_eq_nil, h'.deeds_eq_nil, List.nil_append]

end Traced

namespace Preparation

/-- The document is a cell of a notebook. -/
def IsCell (d : Document) : Prop := Document.notebookScheme.toList <+: d.uri.toList

/-- The document has a path, and it lies in the standard library. -/
def InLibrary (host : Host) (p : Preparation) (d : Document) : Prop :=
  ∃ path, (absolutePath host d).value = some path ∧
    ∃ root ∈ p.store.snapshot.global.stdlibPaths, path.isWithin root = true

/-- The record of settings for a document. -/
def recordFor (host : Host) (p : Preparation) (d : Document) : SettingsRecord :=
  (p.store.resolve host (absolutePath host d).value).value

/-- The document has a path, and a pattern accepts it, or what is left of it below the root of the
record for the document. -/
def IsExcluded (host : Host) (p : Preparation) (d : Document) : Prop :=
  ∃ path, (absolutePath host d).value = some path ∧
    (p.store.snapshot.exclude.accepts path.bytes = true ∨
      ∃ rest, path.below? (p.recordFor host d).workspaceRoot = some rest ∧
        p.store.snapshot.exclude.accepts rest.bytes = true)

/-- The first reason that applies to a document, or that none does. -/
def Decides (host : Host) (p : Preparation) (d : Document) : Option Skip → Prop
  | some .notebookCell => IsCell d
  | some (.invalidSource problem) => ¬ IsCell d ∧ p.check d.source = some problem
  | some .standardLibrary => ¬ IsCell d ∧ p.check d.source = none ∧ p.InLibrary host d
  | some .excluded =>
    ¬ IsCell d ∧ p.check d.source = none ∧ ¬ p.InLibrary host d ∧ p.IsExcluded host d
  | none => ¬ IsCell d ∧ p.check d.source = none ∧ ¬ p.InLibrary host d ∧ ¬ p.IsExcluded host d

/-- The reason for which a document has been left out, if it has. -/
def skip? : Except Skip Prepared → Option Skip
  | .error reason => some reason
  | .ok _ => none

variable {host : Host} {p : Preparation} {d : Document}

/-! ### The reasons one by one -/

theorem isNotebookCell_iff : Document.isNotebookCell d.uri = true ↔ IsCell d :=
  List.isPrefixOf_iff_prefix

theorem isInLibrary_iff :
    isInLibrary p.store (absolutePath host d).value = true ↔ p.InLibrary host d := by
  simp [isInLibrary, InLibrary, Document.isInLibrary, Option.any_eq_true]

theorem isExcluded_iff :
    isExcluded p.store (p.recordFor host d) (absolutePath host d).value = true ↔
      p.IsExcluded host d := by
  simp [isExcluded, IsExcluded, ExcludeMatcher.isExcluded, Option.any_eq_true]

/-! ### The first reason -/

/-- At most one reason is the first that applies. -/
theorem Decides.unique {a b : Option Skip} (ha : p.Decides host d a) (hb : p.Decides host d b) :
    a = b := by
  rcases a with _ | _ | _ | _ | _ <;> rcases b with _ | _ | _ | _ | _ <;>
    simp_all [Decides]

/-- What a document is left out for is the first reason that applies. -/
theorem decides_document (host : Host) (p : Preparation) (d : Document) (useStdin : Bool)
    (extra : List String) :
    p.Decides host d (skip? (p.document host d useStdin extra).value) := by
  rw [document]
  split_ifs with hcell
  · exact isNotebookCell_iff.1 hcell
  · rw [isNotebookCell_iff] at hcell
    split
    · rename_i problem hcheck
      exact ⟨hcell, hcheck⟩
    · rename_i hcheck
      rw [Traced.value_bind]
      split_ifs with hlib
      · exact ⟨hcell, hcheck, isInLibrary_iff.1 hlib⟩
      · rw [isInLibrary_iff] at hlib
        rw [Traced.value_bind]
        split_ifs with hex
        · exact ⟨hcell, hcheck, hlib, isExcluded_iff.1 hex⟩
        · exact ⟨hcell, hcheck, hlib, mt isExcluded_iff.2 hex⟩

theorem skip?_document_iff {reason : Option Skip} (useStdin : Bool) (extra : List String) :
    skip? (p.document host d useStdin extra).value = reason ↔ p.Decides host d reason := by
  have h := decides_document host p d useStdin extra
  exact ⟨fun heq => heq ▸ h, h.unique⟩

/-- The first reason depends on what the check says about the text, on the standard library, on the
patterns and on the root of the record for the document, and on nothing else. -/
theorem Decides.congr {q : Preparation} (hcheck : q.check d.source = p.check d.source)
    (hlib : q.store.snapshot.global.stdlibPaths = p.store.snapshot.global.stdlibPaths)
    (hexclude : q.store.snapshot.exclude = p.store.snapshot.exclude)
    (hroot : (q.recordFor host d).workspaceRoot = (p.recordFor host d).workspaceRoot)
    {reason : Option Skip} (h : p.Decides host d reason) : q.Decides host d reason := by
  have hl : q.InLibrary host d ↔ p.InLibrary host d := by rw [InLibrary, hlib, InLibrary]
  have hx : q.IsExcluded host d ↔ p.IsExcluded host d := by
    rw [IsExcluded, hexclude, hroot, IsExcluded]
  rcases reason with _ | _ | _ | _ | _ <;> simpa only [Decides, hcheck, hl, hx] using h

/-! ### Silence -/

theorem quiet_workingDir (host : Host) : host.workingDir.Quiet := by
  rw [Host.workingDir]
  split <;> exact ⟨rfl, rfl⟩

theorem quiet_absolutize (host : Host) (path : Path) : (host.absolutize path).Quiet := by
  rw [Host.absolutize]
  split_ifs
  · exact Traced.quiet_pure _
  · exact (quiet_workingDir host).bind (Traced.quiet_pure _)

theorem quiet_absolutePath (host : Host) (d : Document) : (absolutePath host d).Quiet := by
  rw [absolutePath]
  split
  · exact Traced.quiet_pure _
  · exact (quiet_absolutize ..).bind (Traced.quiet_pure _)

theorem quiet_resolve (host : Host) (s : Store) (path : Option Path) :
    (s.resolve host path).Quiet := by
  unfold Store.resolve Snapshot.resolve
  split
  · split
    · exact Traced.quiet_pure _
    · exact ((quiet_workingDir host).bind (quiet_absolutize ..)).bind (Traced.quiet_pure _)
  · refine (quiet_absolutize ..).bind ?_
    dsimp only
    split <;> exact Traced.quiet_pure _

/-- What is said while a run is prepared: a warning about a text that does not pass the check, and
nothing about any other document. -/
theorem messages_document (host : Host) (p : Preparation) (d : Document) (useStdin : Bool)
    (extra : List String) :
    (p.document host d useStdin extra).messages =
      match skip? (p.document host d useStdin extra).value with
      | some (.invalidSource problem) => p.output.lines .warning (warningText p.tool d problem)
      | _ => [] := by
  rw [document]
  split_ifs with hcell
  · rfl
  · split
    · rw [Traced.messages_bind, OutputChannel.warning, OutputChannel.messages_emit]
      exact List.append_nil _
    · rw [(quiet_absolutePath host d).messages_bind, Traced.value_bind]
      split_ifs with hlib
      · rfl
      · rw [(quiet_resolve ..).messages_bind, Traced.value_bind]
        split_ifs with hex <;> rfl

/-- **Preparing a run sets nothing going.** -/
theorem deeds_document (host : Host) (p : Preparation) (d : Document) (useStdin : Bool)
    (extra : List String) : (p.document host d useStdin extra).deeds = [] := by
  rw [document]
  split_ifs with hcell
  · rfl
  · split
    · rw [Traced.deeds_bind, OutputChannel.warning, OutputChannel.deeds_emit]
      rfl
    · rw [Traced.deeds_bind, (quiet_absolutePath host d).deeds_eq_nil]
      split_ifs with hlib
      · rfl
      · rw [Traced.deeds_bind, (quiet_resolve ..).deeds_eq_nil]
        split_ifs with hex <;> rfl

end Preparation

namespace Dispatcher

open Preparation

variable {host : Host} {d : Dispatcher} {document : Document} {useStdin : Bool}
  {extra : List String}

/-- A document that is left out leaves everything as it is. -/
theorem runDocument_of_skip? {reason : Skip}
    (h : skip? (d.preparation.document host document useStdin extra).value = some reason) :
    d.runDocument host document useStdin extra =
      ⟨(.ok none, d), (d.preparation.document host document useStdin extra).events⟩ := by
  cases hv : (d.preparation.document host document useStdin extra).value with
  | ok prepared =>
    rw [hv] at h
    contradiction
  | error _ => simp [runDocument, bind, hv]

theorem runDocument_ne_of_skip? (h : skip? (d.preparation.document host document useStdin
    extra).value = none) : (d.runDocument host document useStdin extra).value.1 ≠ .ok none := by
  cases hv : (d.preparation.document host document useStdin extra).value with
  | error reason =>
    rw [hv] at h
    contradiction
  | ok prepared =>
    have hrun : (d.runDocument host document useStdin extra).value.1 =
        (d.execute host prepared document.displayName).value.1.map some := by
      rw [runDocument, Traced.value_bind, hv]
      rfl
    rw [hrun]
    cases (d.execute host prepared document.displayName).value.1 <;> simp [Except.map]

/-- **Which documents are left out, and how quietly.**  The reason that is given for a document is
the first one that applies.  It is the same however the text would be sent, whatever the further
arguments are and however the tool would be run: it depends on the check, the standard library,
the patterns and the root of the record for the document.  There is no result exactly if there is a
reason.  Then nothing is set going: no process is started and no module runs, and it would be the
same with other processes, other runners and other modules; nothing is said about it, unless the
text does not pass the check, which is said in one warning. -/
theorem document_left_out (host : Host) (d : Dispatcher) (document : Document) (useStdin : Bool)
    (extra : List String) :
    let p := d.preparation
    let prepared := (p.document host document useStdin extra).value
    let run := d.runDocument host document useStdin extra
    (∀ reason, skip? prepared = reason ↔ p.Decides host document reason) ∧
    (∀ (q : Preparation) (useStdin' : Bool) (extra' : List String),
      q.check document.source = p.check document.source →
      q.store.snapshot.global.stdlibPaths = p.store.snapshot.global.stdlibPaths →
      q.store.snapshot.exclude = p.store.snapshot.exclude →
      (q.recordFor host document).workspaceRoot = (p.recordFor host document).workspaceRoot →
      skip? (q.document host document useStdin' extra').value = skip? prepared) ∧
    (run.value.1 = .ok none ↔ ∃ reason, p.Decides host document (some reason)) ∧
    ∀ reason, p.Decides host document (some reason) →
      run.messages = (match reason with
        | .invalidSource problem => p.output.lines .warning (warningText p.tool document problem)
        | .notebookCell | .standardLibrary | .excluded => []) ∧
      run.deeds = [] ∧
      ∀ start pool modules,
        ({ d with pool, modules } : Dispatcher).runDocument { host with start } document useStdin
            extra =
          ⟨(.ok none, { d with pool, modules }), run.events⟩ := by
  intro p prepared run
  refine ⟨fun reason => skip?_document_iff useStdin extra, ?_, ?_, fun reason h => ⟨?_, ?_, ?_⟩⟩
  · intro q useStdin' extra' hcheck hlib hexclude hroot
    exact (skip?_document_iff useStdin' extra').2
      ((decides_document host p document useStdin extra).congr hcheck hlib hexclude hroot)
  · constructor
    · intro hrun
      cases hs : skip? prepared with
      | none => exact absurd hrun (runDocument_ne_of_skip? hs)
      | some reason => exact ⟨reason, (skip?_document_iff useStdin extra).1 hs⟩
    · rintro ⟨reason, h⟩
      exact congrArg (·.value.1)
        (runDocument_of_skip? ((skip?_document_iff useStdin extra).2 h))
  · have hs := (skip?_document_iff useStdin extra).2 h
    have hmessages : run.messages = (p.document host document useStdin extra).messages :=
      congrArg Traced.messages (runDocument_of_skip? hs)
    rw [hmessages, messages_document, hs]
    cases reason <;> rfl
  · have hs := (skip?_document_iff useStdin extra).2 h
    have hdeeds : run.deeds = (p.document host document useStdin extra).deeds :=
      congrArg Traced.deeds (runDocument_of_skip? hs)
    rw [hdeeds, deeds_document]
  · intro start pool modules
    have hs := (skip?_document_iff useStdin extra).2 h
    have hevents : run.events = (p.document host document useStdin extra).events :=
      congrArg Traced.events (runDocument_of_skip? hs)
    rw [hevents]
    exact runDocument_of_skip? (d := { d with pool, modules }) hs

end Dispatcher

end ToolRelay
