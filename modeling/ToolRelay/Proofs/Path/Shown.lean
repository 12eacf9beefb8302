import ToolRelay.Proofs.Path.Normal
import ToolRelay.Proofs.Text.Lossy

/-!
# Paths as they are shown

The text that is shown for a path has U+FFFD in the place of each flaw.  A separator is never part
of a flaw, so a path is shown component by component.

* `Path.components_shown` : what is read from the text of a path are its components as they are
  shown;
* `Path.shown_ofComponents` : the text of what is written by its components is written by them as
  they are shown;
* `Path.normalize_shown` : the text of a path is resolved to the text of its normal form.
-/

namespace ToolRelay

/-- A component with another name in the place of its own, if it has one. -/
def Component.rename (f : Bytes → Bytes) : Component → Component
  | .name bs => .name (f bs)
  | c => c

/-- A component as it is shown. -/
abbrev Component.shown : Component → Component := Component.rename Utf8.shown

namespace Path

/-- The path that the text shown for a path spells. -/
def shown (p : Path) : Path := ofString p.display

variable {p q : Path} {cs : List Component}

/-! ### Pieces as they are shown -/

theorem shown_intercalate (ps : List Bytes) :
    Utf8.shown (List.intercalate [separator] ps) =
      List.intercalate [separator] (ps.map Utf8.shown) := by
  induction ps with
  | nil => rfl
  | cons piece ps ih =>
    cases ps with
    | nil => rw [List.map_singleton, List.intercalate_singleton, List.intercalate_singleton]
    | cons next ps =>
      rw [List.intercalate_cons_cons, List.append_assoc, List.singleton_append,
        Utf8.shown_append_cons (by decide), ih]
      simp only [List.map_cons, List.intercalate_cons_cons, List.append_assoc,
        List.singleton_append]

theorem separator_mem_shown_iff {piece : Bytes} :
    separator ∈ Utf8.shown piece ↔ separator ∈ piece :=
  Utf8.mem_shown_iff (by decide)

theorem pieces_shown (bs : Bytes) : pieces (Utf8.shown bs) = (pieces bs).map Utf8.shown := by
  have hne : (pieces bs).map Utf8.shown ≠ [] := by simp [pieces]
  rw [← pieces_intercalate hne, ← shown_intercalate, intercalate_pieces]
  refine List.forall_mem_map.2 fun piece hp => ?_
  rw [separator_mem_shown_iff]
  exact separator_not_mem_of_mem_pieces hp

theorem shown_eq_nil_iff {piece : Bytes} : Utf8.shown piece = [] ↔ piece = [] :=
  Utf8.shown_eq_iff nofun

theorem shown_eq_dot_iff {piece : Bytes} : Utf8.shown piece = [dot] ↔ piece = [dot] :=
  Utf8.shown_eq_iff (List.forall_mem_singleton.2 (by decide))

theorem shown_eq_dots_iff {piece : Bytes} : Utf8.shown piece = [dot, dot] ↔ piece = [dot, dot] :=
  Utf8.shown_eq_iff (List.forall_mem_cons.2 ⟨by decide, List.forall_mem_singleton.2 (by decide)⟩)

theorem isIdle_shown (piece : Bytes) : isIdle (Utf8.shown piece) = isIdle piece := by
  rw [Bool.eq_iff_iff]
  simp only [isIdle, Bool.or_eq_true, beq_iff_eq, shown_eq_nil_iff, shown_eq_dot_iff]

theorem componentOf_shown (piece : Bytes) :
    componentOf (Utf8.shown piece) = (componentOf piece).shown := by
  simp only [componentOf, shown_eq_dots_iff]
  split_ifs <;> rfl

theorem bodyOf_shown (ps : List Bytes) :
    bodyOf (ps.map Utf8.shown) = (bodyOf ps).map Component.shown := by
  simp only [bodyOf, List.filter_map, List.map_map, Function.comp_def, isIdle_shown,
    componentOf_shown]

/-! ### Paths as they are shown -/

/-- An absolute path is one whose first piece is empty and not the last one. -/
theorem isAbsolute_iff_pieces :
    p.isAbsolute = true ↔ ∃ rest, rest ≠ [] ∧ pieces p.bytes = [] :: rest := by
  rw [isAbsolute, beq_iff_eq, List.head?_eq_some_iff]
  constructor
  · rintro ⟨bs, hbs⟩
    exact ⟨pieces bs, by simp [pieces], by rw [hbs, pieces_cons_separator]⟩
  · rintro ⟨rest, hrest, hp⟩
    obtain ⟨next, rest, rfl⟩ := List.exists_cons_of_ne_nil hrest
    refine ⟨List.intercalate [separator] (next :: rest), ?_⟩
    rw [← intercalate_pieces p.bytes, hp, List.intercalate_cons_cons]
    rfl

theorem isAbsolute_shown (p : Path) : p.shown.isAbsolute = p.isAbsolute := by
  have hpieces : pieces p.shown.bytes = (pieces p.bytes).map Utf8.shown := pieces_shown p.bytes
  rw [Bool.eq_iff_iff, isAbsolute_iff_pieces, isAbsolute_iff_pieces, hpieces]
  cases pieces p.bytes with
  | nil => simp
  | cons first rest => simp [shown_eq_nil_iff]

/-- **A path is shown component by component.** -/
theorem components_shown (p : Path) : p.shown.components = p.components.map Component.shown := by
  have hpieces : pieces p.shown.bytes = (pieces p.bytes).map Utf8.shown := pieces_shown p.bytes
  unfold components
  rw [hpieces, isAbsolute_shown]
  cases pieces p.bytes with
  | nil => rfl
  | cons first rest =>
    simp only [List.map_cons, shown_eq_dot_iff]
    -- the first piece says how the path begins, and says the same as it is shown
    split_ifs
    · rw [bodyOf_shown]
      rfl
    · rw [bodyOf_shown]
      rfl
    · rw [← List.map_cons, bodyOf_shown]

theorem spell_shown (c : Component) : spell c.shown = Utf8.shown (spell c) := by
  cases c with
  | name bs => rfl
  | root | here | up => decide

theorem bytes_ofComponents_root (cs : List Component) :
    (ofComponents (.root :: cs)).bytes =
      separator :: List.intercalate [separator] (cs.map spell) := rfl

theorem bytes_ofComponents (h : cs.head? ≠ some .root) :
    (ofComponents cs).bytes = List.intercalate [separator] (cs.map spell) := by
  cases cs with
  | nil => rfl
  | cons c cs =>
    cases c with
    | root => exact absurd rfl h
    | here | up | name => rfl

theorem shown_ofComponents (cs : List Component) :
    (ofComponents cs).shown = ofComponents (cs.map Component.shown) := by
  have hspell (ds : List Component) :
      Utf8.shown (List.intercalate [separator] (ds.map spell)) =
        List.intercalate [separator] ((ds.map Component.shown).map spell) := by
    rw [shown_intercalate, List.map_map, List.map_map]
    simp only [Function.comp_def, spell_shown]
  have hslash : separator.toNat < 0x80 := by decide
  have hbytes : Utf8.shown (ofComponents cs).bytes =
      (ofComponents (cs.map Component.shown)).bytes := by
    cases cs with
    | nil => rfl
    | cons c cs =>
      cases c with
      | root =>
        rw [bytes_ofComponents_root, Utf8.shown_cons hslash, hspell]
        rfl
      | here | up | name =>
        rw [bytes_ofComponents (by simp), hspell]
        rfl
  exact congrArg Path.mk hbytes

theorem shown_normalize (p : Path) :
    p.normalize.shown = ofComponents (p.normalize.components.map Component.shown) := by
  rw [← shown_ofComponents, ofComponents_normalize]

/-! ### The normal form as it is shown -/

/-- One component more is resolved in the same way under other names. -/
theorem resolveStep_rename (f : Bytes → Bytes) (absolute : Bool) (done : List Component)
    (c : Component) :
    resolveStep absolute (done.map (Component.rename f)) (c.rename f) =
      (resolveStep absolute done c).map (Component.rename f) := by
  cases c with
  | root | here | name => rfl
  | up =>
    cases done with
    | nil => cases absolute <;> rfl
    | cons d done => cases d <;> cases absolute <;> rfl

theorem resolve_rename (f : Bytes → Bytes) (absolute : Bool) (cs : List Component) :
    resolve absolute (cs.map (Component.rename f)) =
      (resolve absolute cs).map (Component.rename f) := by
  have hfold : cs.foldl (fun done c => resolveStep absolute done (c.rename f))
      (List.map (Component.rename f) []) =
        (cs.foldl (resolveStep absolute) []).map (Component.rename f) :=
    List.foldl_hom _ fun done c => resolveStep_rename f absolute done c
  rw [resolve, resolve, List.foldl_map, List.map_reverse, ← hfold, List.map_nil]

/-- **Replacing flaws commutes with resolving**: the normal form of the text of a path is the text
of its normal form. -/
theorem normalize_shown (p : Path) : p.shown.normalize = p.normalize.shown := by
  rw [normalize, isAbsolute_shown, components_shown, resolve_rename, ← shown_ofComponents,
    normalize]

theorem wellFormed_ofString (s : String) : Utf8.WellFormed (ofString s).bytes :=
  Utf8.wellFormed_encode s

theorem shown_inj : p.shown = q.shown ↔ p.display = q.display := by
  refine ⟨fun h => ?_, congrArg ofString⟩
  rw [shown, shown, ofString, ofString, Path.mk.injEq] at h
  exact Utf8.encode_injective h

end Path

end ToolRelay
