import ToolRelay.Path.Basic
import ToolRelay.Proofs.Text.Split
import ToolRelay.Proofs.Text.Utf8

/-!
# Reading and writing the components of a path

A path is read into a beginning, which only some paths have, and components after it that are
names or `..` (`Layout`).

* `Path.layout_components` : every path is read so.
* `Path.components_ofComponents` : what is written by its components is read back as them.
* `Path.wellFormed_ofComponents` : a path is text exactly when its components are.
-/

namespace ToolRelay

namespace Path

/-- Octets between separators that say something and are not `..`. -/
def IsName (bs : Bytes) : Prop :=
  separator ∉ bs ∧ bs ≠ [] ∧ bs ≠ [dot] ∧ bs ≠ [dot, dot]

/-- A component that can stand anywhere in a path. -/
inductive IsInner : Component → Prop where
  /-- The parent directory. -/
  | up : IsInner .up
  /-- A name. -/
  | name {bs : Bytes} (h : IsName bs) : IsInner (.name bs)

/-- How the components of an absolute or a relative path are laid out. -/
inductive Layout : Bool → List Component → Prop where
  /-- A path that begins with the separator. -/
  | rooted {cs : List Component} (h : ∀ c ∈ cs, IsInner c) : Layout true (.root :: cs)
  /-- A path that begins with `.`. -/
  | here {cs : List Component} (h : ∀ c ∈ cs, IsInner c) : Layout false (.here :: cs)
  /-- Any other path. -/
  | plain {cs : List Component} (h : ∀ c ∈ cs, IsInner c) : Layout false cs

theorem Layout.concat {absolute : Bool} {cs : List Component} (h : Layout absolute cs)
    {c : Component} (hc : IsInner c) : Layout absolute (cs ++ [c]) := by
  have hall {ds : List Component} (hd : ∀ d ∈ ds, IsInner d) : ∀ d ∈ ds ++ [c], IsInner d := by
    simpa [or_imp, forall_and] using ⟨hd, hc⟩
  cases h with
  | rooted h => exact .rooted (hall h)
  | here h => exact .here (hall h)
  | plain h => exact .plain (hall h)

/-! ### Pieces -/

theorem pieces_eq (bs : Bytes) : pieces bs = Text.splitOnAll (fun b => b = separator) bs := by
  simp only [pieces, Text.splitOnAll, decide_eq_true_eq]

theorem pieces_cons_separator (bs : Bytes) : pieces (separator :: bs) = [] :: pieces bs := by
  rw [pieces_eq, pieces_eq, Text.splitOnAll_cons_of_pos (by decide)]

theorem separator_not_mem_of_mem_pieces {bs piece : Bytes} (h : piece ∈ pieces bs) :
    separator ∉ piece := by
  rw [pieces_eq] at h
  intro hs
  simpa using Text.of_mem_splitOnAll h _ hs

theorem pieces_intercalate {ps : List Bytes} (hne : ps ≠ []) (h : ∀ piece ∈ ps, separator ∉ piece) :
    pieces (List.intercalate [separator] ps) = ps := by
  rw [pieces_eq, Text.splitOnAll_intercalate (by decide) hne]
  intro piece hp b hb
  simpa using fun he : b = separator => h piece hp (he ▸ hb)

theorem intercalate_pieces (bs : Bytes) : List.intercalate [separator] (pieces bs) = bs := by
  rw [pieces_eq, Text.intercalate_splitOnAll fun b hb => of_decide_eq_true hb]

/-! ### What the pieces say -/

theorem IsInner.separator_not_mem {c : Component} (h : IsInner c) : separator ∉ spell c := by
  cases h with
  | up => decide
  | name h => exact h.1

theorem IsInner.isIdle_spell {c : Component} (h : IsInner c) : isIdle (spell c) = false := by
  cases h with
  | up => decide
  | name h => simp [isIdle, spell, h.2.1, h.2.2.1]

theorem IsInner.componentOf_spell {c : Component} (h : IsInner c) :
    componentOf (spell c) = c := by
  cases h with
  | up => decide
  | name h => simp [componentOf, spell, h.2.2.2]

theorem isInner_componentOf {piece : Bytes} (hs : separator ∉ piece)
    (hi : isIdle piece = false) : IsInner (componentOf piece) := by
  rw [componentOf]
  split_ifs with h
  · exact .up
  · simp only [isIdle, Bool.or_eq_false_iff, beq_eq_false_iff_ne] at hi
    exact .name ⟨hs, hi.1, hi.2, h⟩

theorem isInner_of_mem_bodyOf {ps : List Bytes} (h : ∀ piece ∈ ps, separator ∉ piece) :
    ∀ c ∈ bodyOf ps, IsInner c := by
  intro c hc
  rw [bodyOf, List.mem_map] at hc
  obtain ⟨piece, hp, rfl⟩ := hc
  rw [List.mem_filter] at hp
  exact isInner_componentOf (h piece hp.1) (by simpa using hp.2)

theorem bodyOf_map_spell {cs : List Component} (h : ∀ c ∈ cs, IsInner c) :
    bodyOf (cs.map spell) = cs := by
  rw [bodyOf, List.filter_eq_self.2, List.map_map]
  · exact List.map_congr_left (fun c hc => (h c hc).componentOf_spell) |>.trans (List.map_id cs)
  · intro piece hp
    obtain ⟨c, hc, rfl⟩ := List.mem_map.1 hp
    rw [(h c hc).isIdle_spell]
    rfl

theorem bodyOf_pieces_intercalate {cs : List Component} (h : ∀ c ∈ cs, IsInner c) :
    bodyOf (pieces (List.intercalate [separator] (cs.map spell))) = cs := by
  cases cs with
  | nil => rfl
  | cons c cs =>
    rw [pieces_intercalate (by simp), bodyOf_map_spell h]
    intro piece hp
    obtain ⟨d, hd, rfl⟩ := List.mem_map.1 hp
    exact (h d hd).separator_not_mem

/-! ### Reading and writing -/

/-- Every path is read as a beginning and components that can stand anywhere. -/
theorem layout_components (p : Path) : Layout p.isAbsolute p.components := by
  have hs : ∀ piece ∈ pieces p.bytes, separator ∉ piece := fun _ h =>
    separator_not_mem_of_mem_pieces h
  unfold components
  cases hp : pieces p.bytes with
  | nil => exact absurd hp (List.cons_ne_nil _ _)
  | cons first rest =>
    rw [hp] at hs
    have hrest := isInner_of_mem_bodyOf fun piece h => hs piece (List.mem_cons_of_mem _ h)
    -- the first piece says how the path begins
    cases p.isAbsolute with
    | true => exact .rooted hrest
    | false =>
      simp only [Bool.false_eq_true, if_false]
      split_ifs
      · exact .here hrest
      · exact .plain (isInner_of_mem_bodyOf hs)

theorem isAbsolute_intercalate {first : Bytes} (hne : first ≠ []) (hs : separator ∉ first)
    (ps : List Bytes) :
    isAbsolute ⟨List.intercalate [separator] (first :: ps)⟩ = false := by
  obtain ⟨b, bs, rfl⟩ := List.exists_cons_of_ne_nil hne
  have hb : b ≠ separator := fun h => hs (h ▸ List.mem_cons_self ..)
  cases ps <;> simp [isAbsolute, List.intercalate, hb]

theorem components_intercalate {first : Bytes} {cs : List Component} (hne : first ≠ [])
    (hs : separator ∉ first) (h : ∀ c ∈ cs, IsInner c) :
    components ⟨List.intercalate [separator] (first :: cs.map spell)⟩ =
      if first = [dot] then .here :: cs else bodyOf (first :: cs.map spell) := by
  have hp : pieces (List.intercalate [separator] (first :: cs.map spell)) =
      first :: cs.map spell := by
    refine pieces_intercalate (List.cons_ne_nil _ _) fun piece hp => ?_
    obtain rfl | hp := List.mem_cons.1 hp
    · exact hs
    · obtain ⟨c, hc, rfl⟩ := List.mem_map.1 hp
      exact (h c hc).separator_not_mem
  unfold components
  rw [hp]
  simp only [isAbsolute_intercalate hne hs, Bool.false_eq_true, if_false, bodyOf_map_spell h]

/-- A component that is not the root is written without a separator before it. -/
theorem IsInner.ofComponents_cons {c : Component} (h : IsInner c) (cs : List Component) :
    ofComponents (c :: cs) = ⟨List.intercalate [separator] (spell c :: cs.map spell)⟩ := by
  cases h <;> rfl

theorem IsInner.spell_ne {c : Component} (h : IsInner c) : spell c ≠ [] ∧ spell c ≠ [dot] := by
  simpa [isIdle] using h.isIdle_spell

theorem isAbsolute_ofComponents {absolute : Bool} {cs : List Component}
    (h : Layout absolute cs) : (ofComponents cs).isAbsolute = absolute := by
  cases h with
  | rooted => rfl
  | here => exact isAbsolute_intercalate (by decide) (by decide) _
  | plain h =>
    cases cs with
    | nil => rfl
    | cons c cs =>
      have hc := h c (List.mem_cons_self ..)
      rw [hc.ofComponents_cons, isAbsolute_intercalate hc.spell_ne.1 hc.separator_not_mem]

/-- **What is written by its components is read back as them.** -/
theorem components_ofComponents {absolute : Bool} {cs : List Component}
    (h : Layout absolute cs) : (ofComponents cs).components = cs := by
  cases h with
  | @rooted cs h =>
    unfold components ofComponents
    rw [pieces_cons_separator]
    exact congrArg _ (bodyOf_pieces_intercalate h)
  | @here cs h => exact components_intercalate (by decide) (by decide) h
  | plain h =>
    cases cs with
    | nil => rfl
    | cons c cs =>
      have hc := h c (List.mem_cons_self ..)
      have hcs : ∀ d ∈ cs, IsInner d := fun d hd => h d (List.mem_cons_of_mem _ hd)
      rw [hc.ofComponents_cons, components_intercalate hc.spell_ne.1 hc.separator_not_mem hcs,
        if_neg hc.spell_ne.2, ← List.map_cons, bodyOf_map_spell h]

/-! ### Paths that are text -/

/-- Pieces between separators are text exactly when the whole is. -/
theorem wellFormed_intercalate_iff {ps : List Bytes} :
    Utf8.WellFormed (List.intercalate [separator] ps) ↔ ∀ piece ∈ ps, Utf8.WellFormed piece := by
  induction ps with
  | nil => exact ⟨fun _ => nofun, fun _ => Utf8.wellFormed_nil⟩
  | cons piece ps ih =>
    rw [List.forall_mem_cons, ← ih]
    cases ps with
    | nil => simp [List.intercalate, Utf8.wellFormed_nil]
    | cons next ps =>
      rw [List.intercalate_cons_cons, List.append_assoc, List.singleton_append]
      exact Utf8.wellFormed_append_cons_iff (by decide)

theorem wellFormed_of_mem_pieces {bs piece : Bytes} (h : Utf8.WellFormed bs)
    (hp : piece ∈ pieces bs) : Utf8.WellFormed piece :=
  wellFormed_intercalate_iff.1 (by rwa [intercalate_pieces]) piece hp

theorem spell_componentOf (piece : Bytes) : spell (componentOf piece) = piece := by
  rw [componentOf]
  split_ifs with h
  · exact h.symm
  · rfl

theorem wellFormed_of_mem_bodyOf {ps : List Bytes} (h : ∀ piece ∈ ps, Utf8.WellFormed piece)
    {c : Component} (hc : c ∈ bodyOf ps) : Utf8.WellFormed (spell c) := by
  obtain ⟨piece, hp, rfl⟩ := List.mem_map.1 hc
  rw [spell_componentOf]
  exact h piece (List.mem_filter.1 hp).1

/-- The components of a path that is text are text. -/
theorem wellFormed_of_mem_components {p : Path} (h : Utf8.WellFormed p.bytes) {c : Component}
    (hc : c ∈ p.components) : Utf8.WellFormed (spell c) := by
  have hps : ∀ piece ∈ pieces p.bytes, Utf8.WellFormed piece := fun _ hp =>
    wellFormed_of_mem_pieces h hp
  unfold components at hc
  cases hp : pieces p.bytes with
  | nil => exact absurd hp (List.cons_ne_nil _ _)
  | cons first rest =>
    rw [hp] at hc hps
    have hrest : c ∈ bodyOf rest → Utf8.WellFormed (spell c) :=
      wellFormed_of_mem_bodyOf fun piece h => hps piece (List.mem_cons_of_mem _ h)
    simp only at hc
    split_ifs at hc
    · obtain rfl | hc := List.mem_cons.1 hc
      · exact Utf8.wellFormed_singleton (by decide)
      · exact hrest hc
    · obtain rfl | hc := List.mem_cons.1 hc
      · exact Utf8.wellFormed_singleton (by decide)
      · exact hrest hc
    · exact wellFormed_of_mem_bodyOf hps hc

/-- A path whose components are text is text. -/
theorem wellFormed_ofComponents {cs : List Component}
    (h : ∀ c ∈ cs, Utf8.WellFormed (spell c)) : Utf8.WellFormed (ofComponents cs).bytes := by
  have hall (ds : List Component) (hd : ∀ d ∈ ds, Utf8.WellFormed (spell d)) :
      Utf8.WellFormed (List.intercalate [separator] (ds.map spell)) :=
    wellFormed_intercalate_iff.2 fun piece hp => by
      obtain ⟨d, hm, rfl⟩ := List.mem_map.1 hp
      exact hd d hm
  cases cs with
  | nil => exact Utf8.wellFormed_nil
  | cons c cs =>
    cases c with
    | root =>
      exact (Utf8.wellFormed_singleton (by decide)).append
        (hall cs fun d hd => h d (List.mem_cons_of_mem _ hd))
    | here | up | name => exact hall _ h

end Path

end ToolRelay
