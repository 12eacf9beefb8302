import ToolRelay.Text.Blank

/-!
# Cutting lists at separators

`Text.splitOnAll` gives the pieces of a list between separators.  A separator cuts a list into what
comes before it and what comes after it (`Text.splitOnAll_append_cons`), and a list without
separators is one piece (`Text.splitOnAll_of_forall`); everything else about cutting follows.
`Text.exists_firstFullLine?` : a text that is not blank has a first line that is not.
-/

namespace ToolRelay

namespace Text

variable {α : Type} {p : α → Bool}

theorem splitOnAll_ne_nil (xs : List α) : splitOnAll p xs ≠ [] := List.cons_ne_nil _ _

theorem splitOnAll_cons_of_pos {x : α} (h : p x = true) (xs : List α) :
    splitOnAll p (x :: xs) = [] :: splitOnAll p xs := by
  simp [splitOnAll, h]

theorem splitOnAll_cons_of_neg {x : α} (h : p x = false) (xs : List α) :
    ∃ piece pieces, splitOnAll p xs = piece :: pieces ∧
      splitOnAll p (x :: xs) = (x :: piece) :: pieces :=
  ⟨_, _, rfl, by simp [splitOnAll, h]⟩

theorem splitOnAll_append_cons {x : α} (h : p x = true) (xs ys : List α) :
    splitOnAll p (xs ++ x :: ys) = splitOnAll p xs ++ splitOnAll p ys := by
  induction xs with
  | nil => exact splitOnAll_cons_of_pos h ys
  | cons y xs ih =>
    rw [List.cons_append]
    cases hy : p y with
    | true => rw [splitOnAll_cons_of_pos hy, splitOnAll_cons_of_pos hy, ih, List.cons_append]
    | false =>
      obtain ⟨piece, pieces, hs, hc⟩ := splitOnAll_cons_of_neg hy xs
      obtain ⟨piece', pieces', hs', hc'⟩ := splitOnAll_cons_of_neg hy (xs ++ x :: ys)
      rw [ih, hs, List.cons_append] at hs'
      obtain ⟨rfl, rfl⟩ := List.cons.inj hs'
      rw [hc, hc', List.cons_append]

theorem splitOnAll_of_forall {xs : List α} (h : ∀ x ∈ xs, p x = false) :
    splitOnAll p xs = [xs] := by
  induction xs with
  | nil => rfl
  | cons x xs ih =>
    obtain ⟨piece, pieces, hs, hc⟩ := splitOnAll_cons_of_neg (h x (List.mem_cons_self ..)) xs
    rw [ih fun y hy => h y (List.mem_cons_of_mem _ hy)] at hs
    obtain ⟨rfl, rfl⟩ := List.cons.inj hs
    exact hc

/-- A list with separators between pieces that hold none is cut into those pieces. -/
theorem splitOnAll_intercalate {x : α} (hx : p x = true) {pieces : List (List α)}
    (hne : pieces ≠ []) (h : ∀ piece ∈ pieces, ∀ y ∈ piece, p y = false) :
    splitOnAll p (List.intercalate [x] pieces) = pieces := by
  induction pieces with
  | nil => contradiction
  | cons piece rest ih =>
    have hpiece := splitOnAll_of_forall (h piece (List.mem_cons_self ..))
    cases rest with
    | nil => simpa [List.intercalate] using hpiece
    | cons next rest =>
      have hrest := ih (List.cons_ne_nil _ _) fun q hq => h q (List.mem_cons_of_mem _ hq)
      rw [List.intercalate_cons_cons, List.append_assoc, List.singleton_append,
        splitOnAll_append_cons hx, hpiece, hrest, List.singleton_append]

/-- Where there is one separator only, the pieces give the list back. -/
theorem intercalate_splitOnAll {x : α} (hx : ∀ y, p y = true → y = x) (xs : List α) :
    List.intercalate [x] (splitOnAll p xs) = xs := by
  induction xs with
  | nil => rfl
  | cons y xs ih =>
    cases hy : p y with
    | true =>
      obtain ⟨first, rest, hs⟩ := List.exists_cons_of_ne_nil (splitOnAll_ne_nil (p := p) xs)
      rw [splitOnAll_cons_of_pos hy, hs, List.intercalate_cons_cons, ← hs, ih, hx y hy]
      rfl
    | false =>
      obtain ⟨first, rest, hs, hc⟩ := splitOnAll_cons_of_neg hy xs
      rw [hs] at ih
      rw [hc]
      cases rest with
      | nil => simpa [List.intercalate] using ih
      | cons next rest =>
        rw [List.intercalate_cons_cons] at ih ⊢
        rw [List.cons_append, List.cons_append, ih]

theorem of_mem_splitOnAll {xs piece : List α} (h : piece ∈ splitOnAll p xs) :
    ∀ y ∈ piece, p y = false := by
  induction xs generalizing piece with
  | nil =>
    obtain rfl := List.mem_singleton.1 h
    exact nofun
  | cons x xs ih =>
    cases hx : p x with
    | true =>
      rw [splitOnAll_cons_of_pos hx] at h
      obtain rfl | h := List.mem_cons.1 h
      · exact nofun
      · exact ih h
    | false =>
      obtain ⟨first, rest, hs, hc⟩ := splitOnAll_cons_of_neg hx xs
      rw [hs] at ih
      rw [hc] at h
      obtain rfl | h := List.mem_cons.1 h
      · intro y hy
        obtain rfl | hy := List.mem_cons.1 hy
        · exact hx
        · exact ih (List.mem_cons_self ..) y hy
      · exact ih (List.mem_cons_of_mem _ h)

/-- What is left when the first elements of a kind are dropped begins with another kind. -/
theorem eq_false_of_mem_head?_dropWhile {xs : List α} {x : α}
    (h : x ∈ (xs.dropWhile p).head?) : p x = false := by
  have hnot := List.head?_dropWhile_not p xs
  rw [h] at hnot
  simpa using hnot

/-! ### Lines of a text -/

/-- Every element that is no separator is in a piece. -/
theorem exists_piece_of_mem {x : α} {xs : List α} (hx : p x = false) (h : x ∈ xs) :
    ∃ piece ∈ splitOnAll p xs, x ∈ piece := by
  induction xs with
  | nil => contradiction
  | cons y xs ih =>
    cases hy : p y with
    | true =>
      obtain rfl | h := List.mem_cons.1 h
      · rw [hx] at hy; contradiction
      · obtain ⟨piece, hp, hm⟩ := ih h
        exact ⟨piece, by rw [splitOnAll_cons_of_pos hy]; exact List.mem_cons_of_mem _ hp, hm⟩
    | false =>
      obtain ⟨first, rest, hs, hc⟩ := splitOnAll_cons_of_neg hy xs
      rw [hc]
      obtain rfl | h := List.mem_cons.1 h
      · exact ⟨_, List.mem_cons_self .., List.mem_cons_self ..⟩
      · obtain ⟨piece, hp, hm⟩ := ih h
        rw [hs] at hp
        obtain rfl | hp := List.mem_cons.1 hp
        · exact ⟨_, List.mem_cons_self .., List.mem_cons_of_mem _ hm⟩
        · exact ⟨piece, List.mem_cons_of_mem _ hp, hm⟩

/-- Every character but a line break is in a line. -/
theorem exists_line_of_mem {s : String} {c : Char} (hn : c ≠ '\n') (hr : c ≠ '\r')
    (h : c ∈ s.toList) : ∃ line ∈ lines s, c ∈ line.toList := by
  obtain ⟨piece, hp, hm⟩ := exists_piece_of_mem (p := (· == '\n')) (beq_false_of_ne hn) h
  have hkeep : c ∈ (if piece.getLast? = some '\r' then piece.dropLast else piece) := by
    split
    · rename_i hl
      obtain ⟨kept, rfl⟩ := List.getLast?_eq_some_iff.1 hl
      rw [List.dropLast_concat]
      exact (List.mem_append.1 hm).resolve_right fun h => hr (List.mem_singleton.1 h)
    · exact hm
  -- the last piece is a line only if it is not empty
  obtain ⟨ended, last, hs⟩ :=
    (List.eq_nil_or_concat (splitOnAll (· == '\n') s.toList)).resolve_left (splitOnAll_ne_nil _)
  rw [List.concat_eq_append] at hs
  rw [lines, hs, List.dropLast_concat, List.getLast?_concat]
  rw [hs] at hp
  obtain hp | hp := List.mem_append.1 hp
  · refine ⟨_, List.mem_map_of_mem (List.mem_append_left _ (List.mem_map_of_mem hp)), ?_⟩
    rwa [String.toList_ofList]
  · obtain rfl := List.mem_singleton.1 hp
    have hne : piece ≠ [] := List.ne_nil_of_mem hm
    refine ⟨String.ofList piece, List.mem_map_of_mem (List.mem_append_right _ ?_), ?_⟩
    · simp [hne]
    · rwa [String.toList_ofList]

theorem isBlankText_append (s t : String) :
    isBlankText (s ++ t) = (isBlankText s && isBlankText t) := by
  simp [isBlankText]

theorem exists_firstFullLine? {s : String} (h : isBlankText s = false) :
    ∃ line, firstFullLine? s = some line := by
  obtain ⟨c, hc, hb⟩ : ∃ c ∈ s.toList, isBlank c = false := by
    simpa [isBlankText] using h
  obtain ⟨line, hl, hm⟩ := exists_line_of_mem (by rintro rfl; contradiction)
    (by rintro rfl; contradiction) hc
  rw [firstFullLine?]
  cases hf : (lines s).find? fun l => !isBlankText l with
  | some line => exact ⟨line, rfl⟩
  | none =>
    have := List.find?_eq_none.1 hf line hl
    simp only [Bool.not_eq_true, Bool.not_eq_false'] at this
    rw [isBlankText, List.all_eq_true] at this
    rw [this c hm] at hb
    contradiction

end Text

end ToolRelay
