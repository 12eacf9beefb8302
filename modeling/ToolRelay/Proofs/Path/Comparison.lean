import ToolRelay.Proofs.Path.Shown

/-!
# How exactly paths are compared

Paths are compared by the text that is shown for their normal forms, and so component by component
as they are shown (`Path.same_iff_shown`, `Path.isWithin_iff_shown`).  Whether that is exact depends
on whether the components can be told apart (`Path.Told`).

* `Path.told_of_isLegible`, `Path.told_of_text` : components can be told apart if U+FFFD is not
  shown for those of one path, or if both paths are text;
* `Path.exists_twin` : a path for which U+FFFD is shown is taken for another one;
* `Path.same_exact_iff`, `Path.isWithin_exact_iff`, `Path.within_exact_iff` : so the comparison with
  a path is exact if and only if U+FFFD is not shown for it.
-/

namespace ToolRelay

/-- The text that is shown for a component has no U+FFFD. -/
def Component.IsLegible (c : Component) : Prop := '\uFFFD' ∉ (Utf8.lossy (Path.spell c)).toList

namespace Path

variable {p q : Path} {c d : Component} {cs ds : List Component} {f : Bytes → Bytes}

/-! ### What is compared -/

theorem normalize_eq_iff :
    p.normalize = q.normalize ↔ p.normalize.components = q.normalize.components := by
  refine ⟨congrArg components, fun h => ?_⟩
  rw [← ofComponents_normalize p, ← ofComponents_normalize q, h]

theorem same_of_normalize_eq (h : p.normalize = q.normalize) : p.same q = true := by
  rw [same, comparable, comparable, h, beq_self_eq_true]

theorem same_comm (p q : Path) : p.same q = q.same p := BEq.comm

theorem Layout.unique {a b : Bool} (h : Layout a cs) (h' : Layout b cs) : a = b := by
  cases h with
  | rooted h =>
    cases h' with
    | rooted => rfl
    | plain h' => cases h' .root (List.mem_cons_self ..)
  | here h =>
    cases h' with
    | here => rfl
    | plain => rfl
  | plain h =>
    cases h' with
    | rooted => cases h .root (List.mem_cons_self ..)
    | here => rfl
    | plain => rfl

/-- Paths with the same components have the same normal form. -/
theorem normalize_eq_of_agrees (h : p.agrees q = true) : p.normalize = q.normalize := by
  have hcs : p.components = q.components := eq_of_beq h
  have hq := layout_components q
  rw [← hcs] at hq
  rw [normalize, normalize, (layout_components p).unique hq, hcs]

/-- Two paths are the same if the components of their normal forms are shown in the same way. -/
theorem same_iff_shown : p.same q = true ↔
    p.normalize.components.map Component.shown = q.normalize.components.map Component.shown := by
  rw [same, beq_iff_eq, comparable, comparable, ← shown_inj]
  constructor
  · intro h
    rw [← components_shown, ← components_shown, h]
  · intro h
    rw [shown_normalize, shown_normalize, h]

/-- A path lies within another one if its normal form begins with components that are shown like
those of the other one. -/
theorem isWithin_iff_shown : p.isWithin q = true ↔
    q.normalize.components.map Component.shown <+: p.normalize.components.map Component.shown := by
  rw [← components_shown, ← components_shown]
  exact List.isPrefixOf_iff_prefix

/-! ### Components that can be told apart -/

/-- Components that are shown in the same way are the same. -/
def Told (cs ds : List Component) : Prop := ∀ c ∈ cs, ∀ d ∈ ds, c.shown = d.shown → c = d

theorem prefix_map_shown_iff (h : Told cs ds) :
    cs.map Component.shown <+: ds.map Component.shown ↔ cs <+: ds := by
  refine ⟨fun hp => ?_, fun hp => hp.map _⟩
  induction cs generalizing ds with
  | nil => exact List.nil_prefix
  | cons c cs ih =>
    cases ds with
    | nil => simp at hp
    | cons d ds =>
      rw [List.map_cons, List.map_cons, List.cons_prefix_cons] at hp
      have hcd := h c (List.mem_cons_self ..) d (List.mem_cons_self ..) hp.1
      have hrest : Told cs ds := fun a ha b hb =>
        h a (List.mem_cons_of_mem _ ha) b (List.mem_cons_of_mem _ hb)
      exact List.cons_prefix_cons.2 ⟨hcd, ih hrest hp.2⟩

theorem map_shown_eq_iff (h : Told cs ds) :
    cs.map Component.shown = ds.map Component.shown ↔ cs = ds := by
  refine ⟨fun heq => ?_, congrArg _⟩
  have hp := (prefix_map_shown_iff h).1 (heq ▸ List.prefix_refl _)
  exact hp.eq_of_length (by simpa using congrArg List.length heq)

theorem shown_eq_self (h : c.IsLegible) : c.shown = c := by
  cases c with
  | name bs => exact congrArg Component.name (Utf8.shown_eq_self h)
  | root | here | up => rfl

theorem lossy_spell_of_shown (h : c.shown = d.shown) :
    Utf8.lossy (spell c) = Utf8.lossy (spell d) :=
  Utf8.encode_injective (by
    have hs := congrArg spell h
    rwa [spell_shown, spell_shown] at hs)

theorem told_of_isLegible (h : ∀ c ∈ cs, c.IsLegible) : Told cs ds := by
  intro c hc d _ heq
  have hd : d.IsLegible := by
    rw [Component.IsLegible, ← lossy_spell_of_shown heq]
    exact h c hc
  rw [← shown_eq_self (h c hc), heq, shown_eq_self hd]

theorem told_of_wellFormed (hcs : ∀ c ∈ cs, Utf8.WellFormed (spell c))
    (hds : ∀ d ∈ ds, Utf8.WellFormed (spell d)) : Told cs ds := by
  intro c hc d hd heq
  have hspell := (hcs c hc).eq_of_lossy (hds d hd) (lossy_spell_of_shown heq)
  cases c <;> cases d <;> simp_all [Component.rename, spell]

theorem Told.symm (h : Told cs ds) : Told ds cs := fun d hd c hc heq => (h c hc d hd heq.symm).symm

/-! ### Paths that can be told apart -/

/-- The text that is shown for the normal form of a path has no U+FFFD. -/
def IsLegible (p : Path) : Prop := '\uFFFD' ∉ p.normalize.display.toList

theorem isLegible_root : Component.root.IsLegible := by
  rw [Component.IsLegible]
  decide

theorem isLegible_here : Component.here.IsLegible := by
  rw [Component.IsLegible]
  decide

theorem isLegible_up : Component.up.IsLegible := by
  rw [Component.IsLegible]
  decide

/-- What stands before and behind a separator is legible on its own. -/
theorem not_mem_lossy_append_cons_iff {xs ys : Bytes} :
    '\uFFFD' ∉ (Utf8.lossy (xs ++ separator :: ys)).toList ↔
      '\uFFFD' ∉ (Utf8.lossy xs).toList ∧ '\uFFFD' ∉ (Utf8.lossy ys).toList := by
  have hslash : '\uFFFD' ≠ Char.ofNat separator.toNat := by decide
  rw [Utf8.toList_lossy_append_cons (by decide), List.mem_append, List.mem_cons, not_or, not_or,
    and_iff_right hslash]

theorem not_mem_lossy_intercalate_iff {ps : List Bytes} :
    '\uFFFD' ∉ (Utf8.lossy (List.intercalate [separator] ps)).toList ↔
      ∀ piece ∈ ps, '\uFFFD' ∉ (Utf8.lossy piece).toList := by
  induction ps with
  | nil => exact iff_of_true (by decide) nofun
  | cons piece ps ih =>
    rw [List.forall_mem_cons, ← ih]
    cases ps with
    | nil => rw [List.intercalate_singleton, and_iff_left (by decide)]
    | cons next ps =>
      rw [List.intercalate_cons_cons, List.append_assoc, List.singleton_append,
        not_mem_lossy_append_cons_iff]

theorem isLegible_ofComponents_iff :
    '\uFFFD' ∉ (ofComponents cs).display.toList ↔ ∀ c ∈ cs, c.IsLegible := by
  have hspell (ds : List Component) :
      '\uFFFD' ∉ (Utf8.lossy (List.intercalate [separator] (ds.map spell))).toList ↔
        ∀ d ∈ ds, d.IsLegible := by
    rw [not_mem_lossy_intercalate_iff, List.forall_mem_map]
    rfl
  rw [display]
  cases cs with
  | nil => exact hspell []
  | cons c cs =>
    cases c with
    | root =>
      rw [bytes_ofComponents_root, ← List.nil_append (separator :: _),
        not_mem_lossy_append_cons_iff, hspell, List.forall_mem_cons]
      exact and_congr (iff_of_true (by decide) isLegible_root) Iff.rfl
    | here | up | name => rw [bytes_ofComponents (by simp), hspell]

theorem isLegible_iff : p.IsLegible ↔ ∀ c ∈ p.normalize.components, c.IsLegible := by
  rw [← isLegible_ofComponents_iff, ofComponents_normalize, IsLegible]

/-- Paths whose components can be told apart are compared exactly. -/
theorem Told.same_iff (h : Told p.normalize.components q.normalize.components) :
    p.same q = true ↔ p.normalize = q.normalize := by
  rw [same_iff_shown, map_shown_eq_iff h, normalize_eq_iff]

theorem Told.isWithin_iff (h : Told q.normalize.components p.normalize.components) :
    p.isWithin q = true ↔ q.normalize.components <+: p.normalize.components := by
  rw [isWithin_iff_shown, prefix_map_shown_iff h]

theorem IsLegible.told (h : p.IsLegible) (cs : List Component) :
    Told p.normalize.components cs :=
  told_of_isLegible (isLegible_iff.1 h)

/-- The components of two paths that are text can be told apart. -/
theorem told_of_text (hp : Utf8.WellFormed p.normalize.bytes)
    (hq : Utf8.WellFormed q.normalize.bytes) :
    Told p.normalize.components q.normalize.components :=
  told_of_wellFormed (fun _ hc => wellFormed_of_mem_components hp hc)
    fun _ hd => wellFormed_of_mem_components hq hd

/-! ### Paths that cannot be told apart -/

theorem isName_shown_iff {bs : Bytes} : IsName (Utf8.shown bs) ↔ IsName bs := by
  simp only [IsName, separator_mem_shown_iff, ne_eq, shown_eq_nil_iff, shown_eq_dot_iff,
    shown_eq_dots_iff]

/-- Renamed components stay resolved. -/
theorem Stack.rename {absolute : Bool} (hf : ∀ bs, IsName bs → IsName (f bs))
    (h : Stack absolute cs) : Stack absolute (cs.map (Component.rename f)) := by
  induction h with
  | name _ hbs ih => exact ih.name (hf _ hbs)
  | beginning h =>
    cases h with
    | root => exact .beginning .root
    | ups n =>
      rw [List.map_replicate]
      exact .beginning (.ups n)

/-- The normal form of a path with other names. -/
def renamed (f : Bytes → Bytes) (p : Path) : Path :=
  ofComponents (p.normalize.components.map (Component.rename f))

theorem stack_renamed (hf : ∀ bs, IsName bs → IsName (f bs)) (p : Path) :
    Stack p.isAbsolute (p.normalize.components.map (Component.rename f)).reverse := by
  have h := (stack_resolve (layout_components p)).rename hf
  rwa [List.map_reverse, ← components_normalize] at h

theorem components_renamed (hf : ∀ bs, IsName bs → IsName (f bs)) (p : Path) :
    (p.renamed f).components = p.normalize.components.map (Component.rename f) :=
  (stack_renamed hf p).components_written

theorem isAbsolute_renamed (hf : ∀ bs, IsName bs → IsName (f bs)) (p : Path) :
    (p.renamed f).isAbsolute = p.isAbsolute :=
  (stack_renamed hf p).isAbsolute_written

theorem normalize_renamed (hf : ∀ bs, IsName bs → IsName (f bs)) (p : Path) :
    (p.renamed f).normalize = p.renamed f :=
  (stack_renamed hf p).normalize_written

theorem map_shown_rename (hf : ∀ bs, Utf8.shown (f bs) = Utf8.shown bs) (cs : List Component) :
    (cs.map (Component.rename f)).map Component.shown = cs.map Component.shown := by
  rw [List.map_map]
  refine List.map_congr_left fun c _ => ?_
  cases c with
  | name bs => exact congrArg Component.name (hf bs)
  | root | here | up => rfl

/-- Another path in normal form that cannot be told apart from the path `p`. -/
structure Twin (p q : Path) : Prop where
  /-- It is in normal form. -/
  normal : q.normalize = q
  /-- It is another one. -/
  ne : p.normalize ≠ q
  /-- It is as absolute. -/
  isAbsolute_eq : q.isAbsolute = p.isAbsolute
  /-- Its components are shown in the same way. -/
  shown_eq : q.components.map Component.shown = p.normalize.components.map Component.shown

theorem isName_of_shown_eq (hf : ∀ bs, Utf8.shown (f bs) = Utf8.shown bs) (bs : Bytes)
    (h : IsName bs) : IsName (f bs) := by
  rwa [← isName_shown_iff, hf, isName_shown_iff]

theorem twin_renamed (hf : ∀ bs, Utf8.shown (f bs) = Utf8.shown bs)
    (hne : p.normalize ≠ p.renamed f) : Twin p (p.renamed f) where
  normal := normalize_renamed (isName_of_shown_eq hf) p
  ne := hne
  isAbsolute_eq := isAbsolute_renamed (isName_of_shown_eq hf) p
  shown_eq := by rw [components_renamed (isName_of_shown_eq hf), map_shown_rename hf]

/-- **A path that is shown with U+FFFD cannot be told apart from another one**, in which the name
that is shown so has changed. -/
theorem exists_twin (h : ¬ p.IsLegible) : ∃ q, Twin p q := by
  simp only [isLegible_iff, not_forall, exists_prop] at h
  obtain ⟨c, hc, hillegible⟩ := h
  -- the components that are no names are always legible
  cases c with
  | root => exact absurd isLegible_root hillegible
  | here => exact absurd isLegible_here hillegible
  | up => exact absurd isLegible_up hillegible
  | name bs =>
    obtain ⟨others, hne, hshown⟩ : ∃ others, others ≠ bs ∧ Utf8.shown others = Utf8.shown bs :=
      Utf8.exists_shown_alike (not_not.1 hillegible)
    have hf (ds : Bytes) : Utf8.shown (if ds = bs then others else ds) = Utf8.shown ds := by
      split_ifs with hds
      · rw [hshown, hds]
      · rfl
    -- all other names stay, so that the paths differ in this one
    refine ⟨_, twin_renamed hf fun heq => ?_⟩
    have hcs := congrArg components heq
    rw [components_renamed (isName_of_shown_eq hf)] at hcs
    have hname := List.map_inj_left.1 ((List.map_id _).trans hcs) _ hc
    rw [Component.rename, if_pos rfl] at hname
    exact hne (Component.name.inj hname).symm

namespace Twin

variable (h : Twin p q)

include h

theorem components_ne : p.normalize.components ≠ q.normalize.components :=
  fun heq => h.ne (by rw [normalize_eq_iff.2 heq, h.normal])

theorem length_eq : p.normalize.components.length = q.normalize.components.length := by
  have hlength := congrArg List.length h.shown_eq
  rw [List.length_map, List.length_map] at hlength
  rw [h.normal, hlength]

theorem same : p.same q = true := by
  rw [same_iff_shown, h.normal, h.shown_eq]

theorem isWithin : p.isWithin q = true ∧ q.isWithin p = true := by
  rw [isWithin_iff_shown, isWithin_iff_shown, h.normal, h.shown_eq]
  exact ⟨List.prefix_refl _, List.prefix_refl _⟩

theorem apart : ¬ q.normalize.components <+: p.normalize.components ∧
    ¬ p.normalize.components <+: q.normalize.components :=
  ⟨fun hp => h.components_ne (hp.eq_of_length h.length_eq.symm).symm,
    fun hp => h.components_ne (hp.eq_of_length h.length_eq)⟩

end Twin

/-! ### When the comparison is exact -/

theorem same_exact_iff :
    (∀ q, p.same q = true ↔ p.normalize = q.normalize) ↔ p.IsLegible := by
  constructor
  · intro hexact
    by_contra hp
    obtain ⟨q, h⟩ := exists_twin hp
    exact h.components_ne (normalize_eq_iff.1 ((hexact q).1 h.same))
  · exact fun h q => (h.told _).same_iff

theorem isWithin_exact_iff :
    (∀ r, p.isWithin r = true ↔ r.normalize.components <+: p.normalize.components) ↔
      p.IsLegible := by
  constructor
  · intro hexact
    by_contra hp
    obtain ⟨q, h⟩ := exists_twin hp
    exact h.apart.1 ((hexact q).1 h.isWithin.1)
  · exact fun h r => (h.told _).symm.isWithin_iff

theorem within_exact_iff :
    (∀ q : Path, q.isWithin p = true ↔ p.normalize.components <+: q.normalize.components) ↔
      p.IsLegible := by
  constructor
  · intro hexact
    by_contra hp
    obtain ⟨q, h⟩ := exists_twin hp
    exact h.apart.2 ((hexact q).1 h.isWithin.2)
  · exact fun h q => (h.told _).isWithin_iff

end Path

end ToolRelay
