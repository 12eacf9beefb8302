import ToolRelay.Document.Basic
import ToolRelay.Proofs.Dispatch.Strategy
import ToolRelay.Proofs.Path.Comparison
import ToolRelay.Proofs.Settings.History

/-!
# Paths that look alike

Three decisions rest on the comparison of paths: which workspace a directory is the root of, whether
a document belongs to the standard library, and whether an interpreter is the program that runs now.
Each is as exact as the comparison is.

* `Path.comparison_exact_iff` : for which paths the comparison and the decisions are exact.
-/

namespace ToolRelay

variable {p q : Path}

/-! ### Roots -/

namespace Snapshot

variable {s : Snapshot} {record : SettingsRecord}

/-- What is found for a directory is the record of a root that is the same as far as is shown. -/
theorem Agreeing.same_of_find? (h : s.Agreeing) (hf : s.find? p = some record) :
    record.workspaceRoot.same p = true := by
  rw [find?] at hf
  split at hf
  · -- the lookup by key compares components, and the normal form depends on nothing else
    rename_i root found hkey
    obtain rfl := Option.some.inj hf
    have hagrees : root.agrees p = true := by simpa using List.find?_some hkey
    rw [(h.own _ (List.mem_of_find?_eq_some hkey)).1]
    exact Path.same_of_normalize_eq (Path.normalize_eq_of_agrees hagrees)
  · simpa using List.find?_some hf

/-- The only record of a store is found for every directory that is shown like its root. -/
theorem find?_of_same (hs : s.workspaces = [(record.workspaceRoot, record)])
    (h : record.workspaceRoot.same p = true) : s.find? p = some record := by
  rw [find?, records, hs]
  cases hagrees : record.workspaceRoot.agrees p <;> simp [hagrees, h]

end Snapshot

namespace Store

/-- Every absolute path in normal form is the only root of a store. -/
theorem exists_calls (h : q.isAbsolute = true) (hq : q.normalize = q) :
    ∃ calls, ((new ⟨[]⟩).changes calls).value.snapshot.workspaces =
      [(q, .ofGlobal ⟨[]⟩ .empty q)] := by
  let host : Host := { rootHost with currentDir := .ok q }
  have hroot : (Snapshot.currentRoot host).value = q := by
    have habs : host.absolutize q = pure (Path.absoluteFrom q q) := host.absolutize_eq rfl q
    change (host.absolutize q).value = q
    rw [habs, Traced.value_pure, Path.absoluteFrom, if_pos h, hq]
  refine ⟨[(host, .replace none)], ?_⟩
  change (Snapshot.build host ⟨[]⟩ .empty []).value.workspaces = _
  rw [Snapshot.workspaces_build_nil, hroot]

end Store

/-! ### Interpreters -/

namespace Path

/-- The interpreters that are recognized as the program that runs now are those with its normal
form exactly if this is text. -/
theorem select_exact_iff :
    (∀ (record : SettingsRecord) (interpreter : String) (args : List String),
      record.toolPath = [] → record.interpreterPath = interpreter :: args →
      (Strategy.select record p = .inProcess ↔
        (ofString interpreter).normalize = p.normalize)) ↔
    Utf8.WellFormed p.normalize.bytes := by
  constructor
  · intro hexact
    by_contra hp
    -- the text of the normal form spells another path, which is taken for it
    have hspelled : p.renamed Utf8.shown = ofString p.normalize.display := (shown_normalize p).symm
    have htwin : Twin p (ofString p.normalize.display) := by
      rw [← hspelled]
      refine twin_renamed Utf8.shown_shown fun heq => hp ?_
      rw [heq, hspelled]
      exact wellFormed_ofString _
    let record : SettingsRecord :=
      { SettingsRecord.ofGlobal ⟨[]⟩ .empty p with interpreterPath := [p.normalize.display] }
    have hselect : Strategy.select record p = .inProcess := by
      rw [Strategy.select_of_interpreter rfl rfl, same_comm, htwin.same]
      rfl
    have hnormal := (hexact record _ _ rfl rfl).1 hselect
    rw [htwin.normal] at hnormal
    exact htwin.ne hnormal.symm
  · intro hp record interpreter args htool hinterpreter
    have hexact := same_iff (wellFormed_normalize (wellFormed_ofString interpreter)) hp
    rw [Strategy.select_of_interpreter htool hinterpreter, ← hexact]
    simp

/-! ### Libraries -/

theorem isInLibrary_exact_iff :
    (∀ roots, Document.isInLibrary p roots = true ↔
      ∃ root ∈ roots, root.normalize.components <+: p.normalize.components) ↔ p.IsLegible := by
  rw [← isWithin_exact_iff]
  simp only [Document.isInLibrary, List.any_eq_true]
  constructor
  · intro hexact root
    simpa using hexact [root]
  · intro hexact roots
    simp only [hexact]

/-! ### All comparisons -/

/-- **How exact the comparison of paths is.**  Two paths are compared by the components of their
normal forms, each as it is shown: with U+FFFD in the place of its flaws.  For a path `p` that is
shown without U+FFFD this is exact, whatever it is compared with: no record is found for it whose
root is another directory, and it is not taken for part of a library in which it does not lie.  It
is exact as well for two paths that are text.  For every other path `p` there is another one in
normal form that is taken for it, and it is found as a root and as a library.  An interpreter is
text, so whether it is the program that runs now is decided exactly if and only if the normal form
of that program is text. -/
theorem comparison_exact_iff (p : Path) :
    (∀ q, (p.same q = true ↔ p.normalize.components.map Component.shown =
          q.normalize.components.map Component.shown) ∧
      (p.isWithin q = true ↔ q.normalize.components.map Component.shown <+:
          p.normalize.components.map Component.shown)) ∧
    ((∀ q, p.same q = true ↔ p.normalize = q.normalize) ↔ p.IsLegible) ∧
    ((∀ r, p.isWithin r = true ↔ r.normalize.components <+: p.normalize.components) ↔
      p.IsLegible) ∧
    ((∀ q : Path, q.isWithin p = true ↔ p.normalize.components <+: q.normalize.components) ↔
      p.IsLegible) ∧
    (∀ q, Utf8.WellFormed p.normalize.bytes → Utf8.WellFormed q.normalize.bytes →
      (p.same q = true ↔ p.normalize = q.normalize) ∧
      (p.isWithin q = true ↔ q.normalize.components <+: p.normalize.components)) ∧
    (p.IsLegible → ∀ runtime calls record,
      ((Store.new runtime).changes calls).value.snapshot.find? p = some record →
        record.workspaceRoot.normalize = p.normalize) ∧
    (p.isAbsolute = true → ¬ p.IsLegible → ∃ runtime calls record,
      ((Store.new runtime).changes calls).value.snapshot.find? p = some record ∧
        record.workspaceRoot.normalize ≠ p.normalize) ∧
    ((∀ roots, Document.isInLibrary p roots = true ↔
      ∃ root ∈ roots, root.normalize.components <+: p.normalize.components) ↔ p.IsLegible) ∧
    ((∀ (record : SettingsRecord) (interpreter : String) (args : List String),
      record.toolPath = [] → record.interpreterPath = interpreter :: args →
      (Strategy.select record p = .inProcess ↔
        (ofString interpreter).normalize = p.normalize)) ↔
      Utf8.WellFormed p.normalize.bytes) := by
  refine ⟨fun q => ⟨same_iff_shown, isWithin_iff_shown⟩, same_exact_iff, isWithin_exact_iff,
    within_exact_iff, fun q hp hq => ⟨same_iff hp hq, (told_of_text hq hp).isWithin_iff⟩, ?_, ?_,
    isInLibrary_exact_iff, select_exact_iff⟩
  · intro h runtime calls record hf
    exact ((h.told _).symm.same_iff).1 ((Store.agreeing_changes runtime calls).same_of_find? hf)
  · intro ha hp
    obtain ⟨q, h⟩ := exists_twin hp
    obtain ⟨calls, hcalls⟩ := Store.exists_calls (h.isAbsolute_eq.trans ha) h.normal
    let record := SettingsRecord.ofGlobal ⟨[]⟩ .empty q
    have hsame : record.workspaceRoot.same p = true := (same_comm q p).trans h.same
    have hnormal : record.workspaceRoot.normalize = q := h.normal
    refine ⟨⟨[]⟩, calls, record, Snapshot.find?_of_same hcalls hsame, ?_⟩
    rw [hnormal]
    exact h.ne.symm

/-- The store for a workspace whose root is one octet that is a flaw. -/
def flawedStore : Store :=
  ((Store.new ⟨[]⟩).changes [(Store.rootHost,
    .replace (some [⟨"file:///%FF", none, none, none, none, none⟩]))]).value

theorem comparison_flawed :
    let a : Path := ⟨[0x2F, 0xFF]⟩
    let b : Path := ⟨[0x2F, 0xFE]⟩
    let c := ofString "/\uFFFD"
    let below : Path := ⟨[0x2F, 0xFF, 0x2F, 0x61]⟩
    (a.same b = true ∧ a.normalize ≠ b.normalize) ∧
    (below.isWithin b = true ∧ ¬ b.normalize.components <+: below.normalize.components) ∧
    ((flawedStore.snapshot.find? b).map (·.workspaceRoot) = some a ∧
      a.normalize ≠ b.normalize) ∧
    (Document.isInLibrary below [c] = true ∧
      ¬ c.normalize.components <+: below.normalize.components) ∧
    (Strategy.select { SettingsRecord.ofGlobal ⟨[]⟩ .empty a with
        interpreterPath := ["/\uFFFD"] } a = .inProcess ∧ c.normalize ≠ a.normalize) := by
  decide +kernel

end Path

end ToolRelay
