import ToolRelay.Proofs.Dispatch.Arguments

/-!
# Which messages about a document are raised

What is said while the tool runs on a document is raised if the louder of the levels of the
environment and of the settings for the document asks for it.  The warning about a text that does
not pass the check is an exception: it is raised only if the environment asks for it, since it is
given before the settings are looked up.

* `Dispatcher.governed_execute` : the level that governs what is said about a run;
* `Dispatcher.notices_governed_iff` : the level that governs what is said about a document, and the
  one case in which it does not.
-/

namespace ToolRelay

namespace Dispatcher

open OutputChannel Preparation

variable {host : Host} {d : Dispatcher} {document : Document} {useStdin : Bool}
  {extra : List String}

theorem governed_showResult (output : OutputChannel) (label : String) (r : InvocationResult) :
    Governed output.notifications (showResult output label r).messages := by
  unfold showResult
  -- the report and the line for standard error may each be missing
  split <;> dsimp only <;> split
  · exact .bind (governed_emit ..) (governed_emit ..)
  · exact governed_emit ..
  · exact .bind (governed_emit ..) (.bind (governed_emit ..) (governed_emit ..))
  · exact .bind (governed_emit ..) (governed_emit ..)

/-- What is said about a run is governed by the louder of the levels of the environment and of its
settings. -/
theorem governed_execute (host : Host) (d : Dispatcher) (p : Prepared) (label : String) :
    Governed (d.output.notifications.max p.record.notificationLevel)
      (d.execute host p label).messages := by
  -- the backend itself says nothing
  have hconduct : Governed (d.output.notifications.max p.record.notificationLevel)
      (d.conduct host p).messages := by
    rw [Traced.messages_eq_nil (d.events_conduct host p)]
    exact governed_nil _
  refine .bind (governed_emit ..) (.bind (governed_emit ..) (.bind hconduct ?_))
  rcases (d.conduct host p).value with ⟨f | r, next⟩
  · exact .bind (governed_emit ..) (governed_nil _)
  · exact .bind (governed_showResult ..) (governed_nil _)

/-- The text of a document is checked and does not pass. -/
def Rejects (d : Dispatcher) (document : Document) : Prop :=
  ¬ IsCell document ∧ d.preparation.check document.source ≠ none

theorem rejects_iff : d.Rejects document ↔
    ∃ problem, d.preparation.Decides host document (some (.invalidSource problem)) := by
  simp only [Rejects, Decides, exists_and_left, Option.ne_none_iff_exists']

/-- A document whose text does not pass the check gets one warning, and nothing else is said. -/
theorem messages_of_invalidSource {problem : String}
    (h : d.preparation.Decides host document (some (.invalidSource problem))) :
    (d.runDocument host document useStdin extra).messages =
      d.output.lines .warning (warningText d.tool document problem) := by
  have hs := (skip?_document_iff useStdin extra).2 h
  rw [runDocument_of_skip? hs]
  exact (messages_document ..).trans (by rw [hs]; rfl)

theorem messages_document_of_not_rejects (h : ¬ d.Rejects document) :
    (d.preparation.document host document useStdin extra).messages = [] := by
  rw [messages_document]
  split
  · rename_i problem hs
    exact absurd (rejects_iff.2 ⟨problem, (skip?_document_iff useStdin extra).1 hs⟩) h
  · rfl

theorem governed_of_not_rejects (h : ¬ d.Rejects document) :
    Governed
      (d.output.notifications.max (d.preparation.recordFor host document).notificationLevel)
      (d.runDocument host document useStdin extra).messages := by
  refine .bind ?_ ?_
  · rw [messages_document_of_not_rejects h]
    exact governed_nil _
  · cases hv : (d.preparation.document host document useStdin extra).value with
    | error reason => exact governed_nil _
    | ok prepared =>
      cases eq_runOn_of_document hv
      exact .bind (governed_execute ..) (governed_nil _)

/-- **Which level governs what is said about a document**, at any moment of the life of a
dispatcher.  It is the louder of the levels of the environment and of the settings for the document,
with one exception: the text does not pass the check, the settings ask for warnings, and the
environment does not.  Then there is a warning, and it is not raised: the warning about a text that
does not pass the check is governed by the environment alone. -/
theorem notices_governed_iff (s : Setup) (opening : Host) (as : List (Host × Action)) (host : Host)
    (document : Document) (useStdin : Bool) (extra : List String) :
    let d := (s.build opening).value.acts as
    let environment := s.environment.showNotifications
    let own := (d.preparation.recordFor host document).notificationLevel
    let messages := (d.runDocument host document useStdin extra).messages
    (Governed (environment.max own) messages ↔
      ¬ (d.Rejects document ∧ MessageLevel.warning.isRaised own = true ∧
        MessageLevel.warning.isRaised environment = false)) ∧
    ∀ problem, d.preparation.Decides host document (some (.invalidSource problem)) →
      messages =
        OutputChannel.lines ⟨environment⟩ .warning (warningText s.tool document problem) := by
  intro d environment own messages
  have hfixed : d.fixed = (s.tool, ⟨environment⟩, s.runtime, ⟨s.registry, s.searchPath⟩) :=
    fixed_acts (s.build opening).value as
  simp only [fixed, Prod.mk.injEq] at hfixed
  obtain ⟨htool, houtput, -, -⟩ := hfixed
  have hwarning : ∀ problem,
      d.preparation.Decides host document (some (.invalidSource problem)) →
      messages =
        OutputChannel.lines ⟨environment⟩ .warning (warningText s.tool document problem) := by
    intro problem h
    rw [← houtput, ← htool]
    exact messages_of_invalidSource h
  refine ⟨?_, hwarning⟩
  by_cases h : d.Rejects document
  · obtain ⟨problem, hp⟩ := rejects_iff.1 h
    rw [hwarning problem hp, governed_lines_iff, MessageLevel.isRaised_max]
    cases MessageLevel.warning.isRaised environment <;>
      cases MessageLevel.warning.isRaised own <;> simp [h]
  · have hg : Governed (d.output.notifications.max own) messages := governed_of_not_rejects h
    rw [houtput] at hg
    exact iff_of_true hg fun hr => h hr.1

/-! ### A workspace that asks for warnings -/

/-- A tool whose documents must be balanced, in an environment that raises nothing. -/
def quietSetup : Setup where
  tool := { ToolSpec.standard with syntaxCheck := .delimiters }
  global := .empty
  environment := ⟨.bundled, .off, []⟩
  registry := .empty
  searchPath := []
  runtime := ⟨[]⟩

/-- A session with one workspace, which asks for warnings. -/
def warnedDispatcher : Dispatcher :=
  (quietSetup.build Store.rootHost).value.acts
    [(Store.rootHost, .setUp .empty (some [⟨"/w", none, none, none, none, some .onWarning⟩]))]

/-- A document of the workspace, which is not balanced. -/
def unbalancedDocument : Document := .ofPath (Path.ofString "/w/a.txt") "("

theorem notices_unbalanced :
    let own := (warnedDispatcher.preparation.recordFor Store.rootHost
      unbalancedDocument).notificationLevel
    own = .onWarning ∧
    ¬ Governed (quietSetup.environment.showNotifications.max own)
      (warnedDispatcher.runDocument Store.rootHost unbalancedDocument false []).messages := by
  have hown : (warnedDispatcher.preparation.recordFor Store.rootHost
      unbalancedDocument).notificationLevel = .onWarning := by decide +kernel
  have hmessages :
      (warnedDispatcher.runDocument Store.rootHost unbalancedDocument false []).messages =
        OutputChannel.lines ⟨.off⟩ .warning
          "Skipping /w/a.txt: echo could not parse it (unclosed '(' opened on line 1)" := by
    decide +kernel
  refine ⟨hown, ?_⟩
  rw [hown, hmessages, governed_lines_iff]
  decide

end Dispatcher

end ToolRelay
