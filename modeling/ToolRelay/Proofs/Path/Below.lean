import Mathlib.Data.List.DropRight
import ToolRelay.Proofs.Path.Respelling

/-!
# What is left below a directory

The components of a path are its opening, which only some paths have, and what its octets say
(`Path.components_eq`).  Dropping pieces of the written form that say nothing changes neither, so
`Path.below?` can be read off the components: it cuts off those of the directory and leaves the
others.

* `Path.components_append_idle` : what says nothing may stand at the end of a path.
* `Path.isSome_below?_iff` and `Path.components_of_below?` : where a path lies below a directory,
  and what is left of it there.
-/

namespace ToolRelay

namespace Path

variable {p base rest : Path} {ps : List Bytes}

/-! ### Opening and body -/

/-- The component that only the beginning of a path can spell. -/
def opening (p : Path) : List Component :=
  if p.isAbsolute then [.root] else if (pieces p.bytes).head? = some [dot] then [.here] else []

theorem bodyOf_cons_of_isIdle {piece : Bytes} (h : isIdle piece = true) (ps : List Bytes) :
    bodyOf (piece :: ps) = bodyOf ps := by
  simp [bodyOf, h]

/-- A path is absolute if its pieces begin with an empty one that is not the only one. -/
theorem isAbsolute_iff :
    p.isAbsolute = true ↔ ∃ rest, rest ≠ [] ∧ pieces p.bytes = [] :: rest := by
  constructor
  · intro h
    obtain ⟨bs, hbs⟩ := List.head?_eq_some_iff.1 (eq_of_beq h)
    rw [hbs, pieces_cons_separator]
    exact ⟨pieces bs, List.cons_ne_nil _ _, rfl⟩
  · rintro ⟨rest, hne, hp⟩
    obtain ⟨next, rest, rfl⟩ := List.exists_cons_of_ne_nil hne
    have hbytes := intercalate_pieces p.bytes
    rw [hp, List.intercalate_cons_cons] at hbytes
    rw [isAbsolute, ← hbytes]
    rfl

theorem components_eq (p : Path) : p.components = p.opening ++ body p.bytes := by
  unfold components opening body
  cases hp : pieces p.bytes with
  | nil => exact absurd hp (List.cons_ne_nil _ _)
  | cons first rest =>
    by_cases ha : p.isAbsolute = true
    · obtain ⟨rest', -, hrest⟩ := isAbsolute_iff.1 ha
      obtain ⟨rfl, rfl⟩ := List.cons.inj (hp.symm.trans hrest)
      simp only [ha, if_true]
      rw [bodyOf_cons_of_isIdle rfl]
      rfl
    · by_cases hdot : first = [dot]
      · subst hdot
        simp only [ha, Bool.false_eq_true, if_false, if_true, List.head?_cons]
        rw [bodyOf_cons_of_isIdle rfl]
        rfl
      · have hhead : (first :: rest).head? ≠ some [dot] := by simpa using hdot
        simp only [ha, Bool.false_eq_true, if_false, if_neg hdot, if_neg hhead, List.nil_append]

/-- What says nothing may stand behind a separator at the end of a path. -/
theorem components_append_idle (hp : p.bytes ≠ []) {more : Bytes} (h : body more = []) :
    components ⟨p.bytes ++ separator :: more⟩ = p.components := by
  obtain ⟨b, bs, hbs⟩ := List.exists_cons_of_ne_nil hp
  have habs : isAbsolute ⟨p.bytes ++ separator :: more⟩ = p.isAbsolute := by
    rw [isAbsolute, isAbsolute, hbs]
    rfl
  have hhead : (pieces (p.bytes ++ separator :: more)).head? = (pieces p.bytes).head? := by
    rw [pieces_eq, Text.splitOnAll_append_cons (by decide), ← pieces_eq, ← pieces_eq]
    exact List.head?_append_of_ne_nil _ (List.cons_ne_nil _ _)
  have hopening : opening ⟨p.bytes ++ separator :: more⟩ = p.opening := by
    simp only [opening, habs, hhead]
  rw [components_eq, components_eq p, hopening, body_append_cons, h, List.append_nil]

/-! ### Pieces that say nothing -/

theorem bodyOf_dropWhile (ps : List Bytes) : bodyOf (ps.dropWhile isIdle) = bodyOf ps := by
  induction ps with
  | nil => rfl
  | cons piece ps ih =>
    by_cases h : isIdle piece = true
    · rw [List.dropWhile_cons_of_pos h, ih, bodyOf_cons_of_isIdle h]
    · rw [List.dropWhile_cons_of_neg h]

theorem bodyOf_reverse (ps : List Bytes) : bodyOf ps.reverse = (bodyOf ps).reverse := by
  rw [bodyOf, List.filter_reverse, List.map_reverse, bodyOf]

/-- The pieces without the idle ones at the end. -/
theorem bodyOf_dropWhile_reverse (ps : List Bytes) :
    bodyOf (ps.reverse.dropWhile isIdle).reverse = bodyOf ps := by
  rw [bodyOf_reverse, bodyOf_dropWhile, bodyOf_reverse, List.reverse_reverse]

theorem bodyOf_trimIdle (ps : List Bytes) : bodyOf (trimIdle ps) = bodyOf ps := by
  rw [trimIdle, bodyOf_dropWhile_reverse, bodyOf_dropWhile]

theorem bodyOf_dropBusy (n : Nat) (ps : List Bytes) :
    bodyOf (dropBusy n ps) = (bodyOf ps).drop n := by
  induction n generalizing ps with
  | zero => rfl
  | succ n ih =>
    rw [dropBusy, ih, ← bodyOf_dropWhile ps]
    cases hps : ps.dropWhile isIdle with
    | nil => simp [bodyOf]
    | cons piece rest =>
      have hhead : (ps.dropWhile isIdle).head? = some piece := by rw [hps, List.head?_cons]
      have hbusy : isIdle piece = false := Text.eq_false_of_mem_head?_dropWhile hhead
      have hcons : bodyOf (piece :: rest) = componentOf piece :: bodyOf rest := by
        simp [bodyOf, hbusy]
      rw [hcons]
      rfl

theorem mem_of_mem_dropBusy {n : Nat} {piece : Bytes} (h : piece ∈ dropBusy n ps) :
    piece ∈ ps := by
  induction n generalizing ps with
  | zero => exact h
  | succ n ih => exact (List.dropWhile_suffix _).mem (List.mem_of_mem_tail (ih h))

theorem mem_of_mem_trimIdle {piece : Bytes} (h : piece ∈ trimIdle ps) : piece ∈ ps := by
  have h := (List.dropWhile_suffix _).mem (List.mem_reverse.1 h)
  exact (List.dropWhile_suffix _).mem (List.mem_reverse.1 h)

/-- What is left at the beginning is not idle. -/
theorem isIdle_of_head?_trimIdle {first : Bytes} (h : (trimIdle ps).head? = some first) :
    isIdle first = false := by
  obtain ⟨rest, hrest⟩ := List.head?_eq_some_iff.1 h
  have hprefix : trimIdle ps <+: ps.dropWhile isIdle := List.rdropWhile_prefix isIdle _
  rw [hrest] at hprefix
  obtain ⟨more, hmore⟩ := hprefix
  have hhead : (ps.dropWhile isIdle).head? = some first := by
    rw [← hmore, List.cons_append, List.head?_cons]
  exact Text.eq_false_of_mem_head?_dropWhile hhead

/-- A path that is written by pieces, of which the first is not idle, says what they spell. -/
theorem components_ofPieces (hs : ∀ piece ∈ ps, separator ∉ piece)
    (h : ∀ first, ps.head? = some first → isIdle first = false) :
    (ofPieces ps).components = bodyOf ps := by
  cases ps with
  | nil => rfl
  | cons first rest =>
    have hfirst : first ≠ [] ∧ first ≠ [dot] := by simpa [isIdle] using h first rfl
    have hpieces : pieces (ofPieces (first :: rest)).bytes = first :: rest :=
      pieces_intercalate (List.cons_ne_nil _ _) hs
    have habs : (ofPieces (first :: rest)).isAbsolute = false :=
      isAbsolute_intercalate hfirst.1 (hs first (List.mem_cons_self ..)) rest
    rw [components_eq, opening, body, hpieces, habs]
    simp [hfirst.2]

/-! ### Below a directory -/

/-- Dropping idle pieces at the end changes no component. -/
theorem components_trimEnd (p : Path) : p.trimEnd.components = p.components := by
  unfold trimEnd
  cases hp : pieces p.bytes with
  | nil => rfl
  | cons first rest =>
    simp only
    set kept := (rest.reverse.dropWhile isIdle).reverse with hkept
    have hprefix : kept <+: rest := List.rdropWhile_prefix isIdle rest
    have hbody : bodyOf (first :: kept) = body p.bytes := by
      rw [body, hp, ← List.singleton_append, bodyOf_append, hkept, bodyOf_dropWhile_reverse,
        ← bodyOf_append, List.singleton_append]
    have hmem : ∀ piece ∈ first :: kept, separator ∉ piece := by
      intro piece h
      have hfirst := List.cons_subset_cons first hprefix.subset h
      exact separator_not_mem_of_mem_pieces (hp ▸ hfirst)
    have hpieces : pieces (ofPieces (first :: kept)).bytes = first :: kept :=
      pieces_intercalate (List.cons_ne_nil _ _) hmem
    by_cases hroot : p.isAbsolute = true ∧ kept = []
    · -- nothing but the root is left
      obtain ⟨ha, hnil⟩ := hroot
      obtain ⟨rest', -, hrest'⟩ := isAbsolute_iff.1 ha
      obtain ⟨rfl, -⟩ := List.cons.inj (hp.symm.trans hrest')
      rw [if_pos ⟨ha, hnil⟩, components_eq p, ← hbody, hnil, opening, if_pos ha]
      rfl
    · have habs : (ofPieces (first :: kept)).isAbsolute = p.isAbsolute := by
        rw [Bool.eq_iff_iff, isAbsolute_iff, isAbsolute_iff, hpieces, hp]
        constructor
        · rintro ⟨more, hmore, heq⟩
          obtain ⟨rfl, rfl⟩ := List.cons.inj heq
          exact ⟨rest, fun hnil => hmore (List.prefix_nil.1 (hnil ▸ hprefix)), rfl⟩
        · rintro ⟨more, hmore, heq⟩
          obtain ⟨rfl, rfl⟩ := List.cons.inj heq
          have ha : p.isAbsolute = true := isAbsolute_iff.2 ⟨_, hmore, hp⟩
          exact ⟨kept, fun hnil => hroot ⟨ha, hnil⟩, rfl⟩
      have hopening : (ofPieces (first :: kept)).opening = p.opening := by
        simp only [opening, habs, hpieces, hp, List.head?_cons]
      rw [if_neg hroot, components_eq, components_eq p, hopening, ← hbody, body, hpieces]

/-- What is left when the pieces of as many components are dropped. -/
theorem components_ofPieces_dropBusy (n : Nat) (hs : ∀ piece ∈ ps, separator ∉ piece) :
    (ofPieces (trimIdle (dropBusy n ps))).components = (bodyOf ps).drop n := by
  rw [components_ofPieces (fun piece hp => hs piece (mem_of_mem_dropBusy (mem_of_mem_trimIdle hp)))
    fun first => isIdle_of_head?_trimIdle, bodyOf_trimIdle, bodyOf_dropBusy]

/-- What the pieces spell behind the first component: an opening takes the first piece. -/
theorem bodyOf_of_components {c : Component} {cs : List Component} (h : p.components = c :: cs) :
    (c = .root ∨ c = .here) ∧ bodyOf (pieces p.bytes).tail = cs ∨
      IsInner c ∧ bodyOf (pieces p.bytes) = c :: cs := by
  rw [components_eq] at h
  unfold opening at h
  split_ifs at h with ha hdot
  · obtain ⟨rfl, rfl⟩ := List.cons.inj h
    obtain ⟨rest, -, hp⟩ := isAbsolute_iff.1 ha
    rw [body, hp]
    exact .inl ⟨.inl rfl, (bodyOf_cons_of_isIdle rfl rest).symm⟩
  · obtain ⟨rfl, rfl⟩ := List.cons.inj h
    obtain ⟨rest, hp⟩ := List.head?_eq_some_iff.1 hdot
    rw [body, hp]
    exact .inl ⟨.inr rfl, (bodyOf_cons_of_isIdle rfl rest).symm⟩
  · have hmem : c ∈ body p.bytes := by
      rw [List.nil_append] at h
      rw [h]
      exact List.mem_cons_self ..
    exact .inr ⟨isInner_of_mem_bodyOf (fun _ => separator_not_mem_of_mem_pieces) c hmem, h⟩

/-- **What is left of a path below a directory** has the components behind those of the
directory. -/
theorem below?_of_prefix (h : base.components <+: p.components) :
    ∃ rest, p.below? base = some rest ∧ p.components = base.components ++ rest.components := by
  have hs : ∀ piece ∈ pieces p.bytes, separator ∉ piece := fun _ => separator_not_mem_of_mem_pieces
  have hprefix := List.isPrefixOf_iff_prefix.2 h
  obtain ⟨left, hleft⟩ := h
  cases hbase : base.components with
  | nil => exact ⟨p.trimEnd, by simp [below?, hbase], (components_trimEnd p).symm⟩
  | cons c more =>
    rw [hbase, List.cons_append] at hleft
    rw [hbase, ← hleft] at hprefix
    -- an opening is dropped with the first piece, any other component like those behind it
    obtain ⟨hc, htail⟩ | ⟨hc, hbody⟩ := bodyOf_of_components hleft.symm
    · refine ⟨ofPieces (trimIdle (dropBusy more.length (pieces p.bytes).tail)), ?_, ?_⟩
      · obtain rfl | rfl := hc <;> simp [below?, hbase, ← hleft]
      · have hdrop := components_ofPieces_dropBusy more.length
          fun piece hp => hs piece (List.mem_of_mem_tail hp)
        rw [htail, List.drop_left] at hdrop
        rw [hdrop, ← hleft]
        rfl
    · refine ⟨ofPieces (trimIdle (dropBusy (more.length + 1) (pieces p.bytes))), ?_, ?_⟩
      · cases hc <;> simp [below?, hbase, ← hleft]
      · have hdrop := components_ofPieces_dropBusy (more.length + 1) hs
        rw [hbody, List.drop_succ_cons, List.drop_left] at hdrop
        rw [hdrop, ← hleft]
        rfl

theorem isSome_below?_iff :
    (p.below? base).isSome = true ↔ base.components <+: p.components := by
  constructor
  · intro h
    by_contra hnot
    have hprefix : ¬ base.components.isPrefixOf p.components = true :=
      mt List.isPrefixOf_iff_prefix.1 hnot
    rw [below?, if_neg hprefix] at h
    contradiction
  · intro h
    obtain ⟨rest, hrest, -⟩ := below?_of_prefix h
    rw [hrest]
    rfl

theorem components_of_below? (h : p.below? base = some rest) :
    p.components = base.components ++ rest.components := by
  have hprefix : base.components <+: p.components := by
    rw [← isSome_below?_iff, h]
    rfl
  obtain ⟨rest', hrest', heq⟩ := below?_of_prefix hprefix
  obtain rfl := Option.some.inj (h.symm.trans hrest')
  exact heq

end Path

end ToolRelay
