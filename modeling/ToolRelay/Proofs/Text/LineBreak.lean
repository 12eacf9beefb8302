import ToolRelay.Text.LineBreak
import Mathlib.Data.List.Basic
import Mathlib.Data.List.Infix
import Mathlib.Tactic.SplitIfs

/-!
# The line breaks of a text

Every text is lines that end in LF and a rest without one (`LineBreak.exists_join`).  A line that
ends in CR is broken by CR LF, every other line by LF alone.  So everything about line breaks is
said by the ends of lines: converting to LF takes one CR off the end of each line
(`LineBreak.toLf_join`), and the kind of a text counts the lines that end in CR
(`LineBreak.countCrLf_join`).  Taking one CR off leaves CR LF where two stood before LF.

* `LineBreak.infix_toLf_iff` : CR LF in what is converted comes from CR CR LF.
* `LineBreak.toLf_eq_self_iff` : converting changes nothing exactly where there is no CR LF.
* `LineBreak.detect_eq_lf_iff` and `LineBreak.detect_eq_mixed_iff` : which texts are of a kind.
* `LineBreak.not_hasBreakWithout_toCrLf` : what is converted to CR LF has no other breaks.
-/

namespace ToolRelay

namespace LineBreak

/-- The text of lines that each end in LF, and a rest. -/
def join : List (List Char) → List Char → List Char
  | [], rest => rest
  | line :: lines, rest => line ++ '\n' :: join lines rest

/-- Every text is lines that end in LF, and a rest without one. -/
theorem exists_join (s : List Char) :
    ∃ lines rest, (∀ line ∈ lines, '\n' ∉ line) ∧ '\n' ∉ rest ∧ s = join lines rest := by
  induction hl : s.length using Nat.strongRecOn generalizing s with
  | ind n ih =>
    by_cases hn : '\n' ∈ s
    · obtain ⟨line, s, rfl, hline⟩ := List.eq_append_cons_of_mem hn
      obtain ⟨lines, rest, hlines, hrest, rfl⟩ := ih s.length (by simp at hl; omega) s rfl
      exact ⟨line :: lines, rest, List.forall_mem_cons.2 ⟨hline, hlines⟩, hrest, rfl⟩
    · exact ⟨[], s, nofun, hn, rfl⟩

variable {line line' rest s s' : List Char} {lines : List (List Char)}

theorem eq_of_append_break (h : '\n' ∉ line) (h' : '\n' ∉ line')
    (heq : line ++ '\n' :: s = line' ++ '\n' :: s') : line = line' ∧ s = s' := by
  obtain ⟨more, rfl, hs⟩ | ⟨more, rfl, hs⟩ := List.append_eq_append_iff.1 heq
  all_goals
    cases more with
    | nil => simp_all
    | cons c more => simp_all

/-! ### What stands before an LF -/

theorem suffix_append_break_iff {ending : List Char} (h : '\n' ∉ ending) :
    ending <:+ line ++ '\n' :: s ↔ ending <:+ s := by
  refine ⟨fun hs => ?_, fun hs => (hs.trans (List.suffix_cons _ _)).trans (List.suffix_append _ _)⟩
  obtain hs | hs := List.suffix_or_suffix_of_suffix hs (List.suffix_append line ('\n' :: s))
  · obtain rfl | hs := List.suffix_cons_iff.1 hs
    · exact absurd (List.mem_cons_self ..) h
    · exact hs
  · exact absurd (hs.subset (List.mem_cons_self ..)) h

theorem break_prefix_iff (h : '\n' ∉ line) (before : List Char) :
    before ++ ['\n'] <+: line ++ '\n' :: s ↔
      before = line ∨ ∃ b, before = line ++ '\n' :: b ∧ b ++ ['\n'] <+: s := by
  constructor
  · rintro ⟨after, heq⟩
    by_cases hb : '\n' ∈ before
    · obtain ⟨first, b, rfl, hfirst⟩ := List.eq_append_cons_of_mem hb
      obtain ⟨rfl, rfl⟩ := eq_of_append_break (s := b ++ '\n' :: after) hfirst h (by simpa using heq)
      exact .inr ⟨b, rfl, after, by simp⟩
    · obtain ⟨rfl, -⟩ := eq_of_append_break (s := after) hb h (by simpa using heq)
      exact .inl rfl
  · rintro (rfl | ⟨b, rfl, after, rfl⟩)
    · exact ⟨s, by simp⟩
    · exact ⟨after, by simp⟩

/-- What is said of the text before an LF, where only the last line of it matters, is said of a
line. -/
theorem exists_before_iff {Q : List Char → Prop} (hQ : ∀ line s, Q (line ++ '\n' :: s) ↔ Q s)
    (hlines : ∀ line ∈ lines, '\n' ∉ line) (hrest : '\n' ∉ rest) :
    (∃ before, before ++ ['\n'] <+: join lines rest ∧ Q before) ↔ ∃ line ∈ lines, Q line := by
  induction lines with
  | nil =>
    refine ⟨fun ⟨before, hp, _⟩ => ?_, by simp⟩
    exact absurd (hp.subset (by simp)) hrest
  | cons line lines ih =>
    obtain ⟨hline, hlines⟩ := List.forall_mem_cons.1 hlines
    rw [List.exists_mem_cons_iff, ← ih hlines]
    simp only [join, break_prefix_iff hline]
    constructor
    · rintro ⟨before, rfl | ⟨b, rfl, hb⟩, h⟩
      · exact .inl h
      · exact .inr ⟨b, hb, (hQ _ _).1 h⟩
    · rintro (h | ⟨b, hb, h⟩)
      · exact ⟨line, .inl rfl, h⟩
      · exact ⟨_, .inr ⟨b, rfl, hb⟩, (hQ _ _).2 h⟩

/-- An LF stands in a text behind something else than `ending`. -/
def HasBreakWithout (ending s : List Char) : Prop :=
  ∃ before, before ++ ['\n'] <+: s ∧ ¬ ending <:+ before

theorem infix_join_iff (ending : List Char) (h : '\n' ∉ ending)
    (hlines : ∀ line ∈ lines, '\n' ∉ line) (hrest : '\n' ∉ rest) :
    ending ++ ['\n'] <:+: join lines rest ↔ ∃ line ∈ lines, ending <:+ line := by
  rw [← exists_before_iff (fun _ _ => suffix_append_break_iff h) hlines hrest]
  constructor
  · rintro ⟨first, after, heq⟩
    exact ⟨first ++ ending, ⟨after, by simpa using heq⟩, first, rfl⟩
  · rintro ⟨_, ⟨after, heq⟩, first, rfl⟩
    exact ⟨first, after, by simpa using heq⟩

theorem hasBreakWithout_join_iff (ending : List Char) (h : '\n' ∉ ending)
    (hlines : ∀ line ∈ lines, '\n' ∉ line) (hrest : '\n' ∉ rest) :
    HasBreakWithout ending (join lines rest) ↔ ∃ line ∈ lines, ¬ ending <:+ line :=
  exists_before_iff (fun _ _ => not_congr (suffix_append_break_iff h)) hlines hrest

/-! ### Lines that end in CR -/

/-- Whether a line ends in CR. -/
def endsCr (line : List Char) : Bool := line.getLast? == some '\r'

theorem endsCr_iff : endsCr line = true ↔ ['\r'] <:+ line := by
  rw [endsCr, beq_iff_eq, List.getLast?_eq_some_iff]
  exact exists_congr fun _ => eq_comm

/-- A line without the CR at its end. -/
def chop (line : List Char) : List Char := if endsCr line then line.dropLast else line

theorem chop_concat (line : List Char) : chop (line ++ ['\r']) = line := by
  simp [chop, endsCr]

theorem chop_of_not (h : ¬ ['\r'] <:+ line) : chop line = line := by
  rw [chop, if_neg (mt endsCr_iff.1 h)]

theorem chop_cons_of_ne_nil (c : Char) (h : line ≠ []) : chop (c :: line) = c :: chop line := by
  obtain ⟨d, line, rfl⟩ := List.exists_cons_of_ne_nil h
  simp only [chop, endsCr, List.getLast?_cons_cons, List.dropLast_cons_cons]
  exact (apply_ite (c :: ·) _ _ _).symm

theorem not_mem_chop (h : '\n' ∉ line) : '\n' ∉ chop line := by
  rw [chop]
  split_ifs
  · exact fun hm => h (List.dropLast_subset _ hm)
  · exact h

/-- Of two CR at the end of a line one is left. -/
theorem suffix_chop_iff : ['\r'] <:+ chop line ↔ ['\r', '\r'] <:+ line := by
  by_cases h : ['\r'] <:+ line
  · obtain ⟨line, rfl⟩ := h
    rw [chop_concat]
    have h : ['\r'] ++ ['\r'] <:+ line ++ ['\r'] ↔ ['\r'] <:+ line ∧ ['\r'] = ['\r'] :=
      List.suffix_append_inj_of_length_eq rfl
    simpa using h.symm
  · rw [chop_of_not h]
    exact iff_of_false h fun h' => h ((List.suffix_cons '\r' ['\r']).trans h')

/-! ### Converting to LF -/

theorem toLf_cons (c : Char) (s : List Char) :
    toLf (c :: s) = if c = '\r' ∧ s.head? = some '\n' then toLf s else c :: toLf s := by
  cases s <;> simp [toLf]

theorem toLf_of_not_mem (h : '\n' ∉ line) : toLf line = line := by
  induction line with
  | nil => rfl
  | cons c line ih =>
    have hline : '\n' ∉ line := fun hm => h (List.mem_cons_of_mem _ hm)
    rw [toLf_cons, if_neg, ih hline]
    exact fun hc => hline (List.mem_of_head? hc.2)

theorem toLf_append_break (h : '\n' ∉ line) (s : List Char) :
    toLf (line ++ '\n' :: s) = chop line ++ '\n' :: toLf s := by
  induction line with
  | nil => exact toLf_cons '\n' s
  | cons c line ih =>
    have hline : '\n' ∉ line := fun hm => h (List.mem_cons_of_mem _ hm)
    rw [List.cons_append, toLf_cons, ih hline]
    cases line with
    | nil => by_cases hc : c = '\r' <;> simp [hc, chop, endsCr]
    | cons d line =>
      have hd : d ≠ '\n' := fun hd => hline (hd ▸ List.mem_cons_self ..)
      rw [chop_cons_of_ne_nil c (List.cons_ne_nil d line), if_neg (by simp [hd])]
      rfl

/-- Converting to LF takes one CR off the end of each line. -/
theorem toLf_join (hlines : ∀ line ∈ lines, '\n' ∉ line) (hrest : '\n' ∉ rest) :
    toLf (join lines rest) = join (lines.map chop) rest := by
  induction lines with
  | nil => exact toLf_of_not_mem hrest
  | cons line lines ih =>
    obtain ⟨hline, hlines⟩ := List.forall_mem_cons.1 hlines
    rw [join, toLf_append_break hline, ih hlines]
    rfl

theorem not_mem_map_chop (hlines : ∀ line ∈ lines, '\n' ∉ line) :
    ∀ line ∈ lines.map chop, '\n' ∉ line :=
  List.forall_mem_map.2 fun line hm => not_mem_chop (hlines line hm)

/-- **CR LF in what is converted comes from CR CR LF.** -/
theorem infix_toLf_iff (s : List Char) :
    ['\r', '\n'] <:+: toLf s ↔ ['\r', '\r', '\n'] <:+: s := by
  obtain ⟨lines, rest, hlines, hrest, rfl⟩ := exists_join s
  rw [toLf_join hlines hrest]
  refine (infix_join_iff ['\r'] (by decide) (not_mem_map_chop hlines) hrest).trans
    (Iff.trans ?_ (infix_join_iff ['\r', '\r'] (by decide) hlines hrest).symm)
  simp [suffix_chop_iff]

theorem hasBreakWithout_toLf_iff (s : List Char) :
    HasBreakWithout ['\r'] (toLf s) ↔ HasBreakWithout ['\r', '\r'] s := by
  obtain ⟨lines, rest, hlines, hrest, rfl⟩ := exists_join s
  rw [toLf_join hlines hrest, hasBreakWithout_join_iff _ (by decide) (not_mem_map_chop hlines) hrest,
    hasBreakWithout_join_iff _ (by decide) hlines hrest]
  simp [suffix_chop_iff]

/-! ### The kind of a text -/

theorem foldl_countCrLf (s : List Char) (n : Nat) (afterCr : Bool) :
    (s.foldl (fun (n, afterCr) c => (if afterCr && c == '\n' then n + 1 else n, c == '\r'))
        (n, afterCr)).1 =
      n + (if afterCr = true ∧ s.head? = some '\n' then 1 else 0) + countCrLf s := by
  induction s generalizing n afterCr with
  | nil => simp [countCrLf]
  | cons c s ih =>
    rw [countCrLf, List.foldl_cons, List.foldl_cons, ih, ih]
    by_cases h : afterCr = true ∧ c = '\n'
    · simp [h]
    · simp [h, Nat.add_assoc]

theorem countCrLf_cons (c : Char) (s : List Char) :
    countCrLf (c :: s) = (if c = '\r' ∧ s.head? = some '\n' then 1 else 0) + countCrLf s := by
  rw [countCrLf, List.foldl_cons, foldl_countCrLf]
  simp

/-- A text is what it is converted to exactly if CR LF does not occur in it. -/
theorem toLf_eq_self_iff (s : List Char) : toLf s = s ↔ countCrLf s = 0 := by
  have hlength (s : List Char) : (toLf s).length + countCrLf s = s.length := by
    induction s with
    | nil => rfl
    | cons c s ih => rw [toLf_cons, countCrLf_cons]; split_ifs <;> simp <;> omega
  constructor
  · intro h
    have := hlength s
    rw [h] at this
    omega
  · intro h
    induction s with
    | nil => rfl
    | cons c s ih =>
      rw [countCrLf_cons] at h
      split_ifs at h with hc
      · omega
      · rw [toLf_cons, if_neg hc, ih (by omega)]

theorem countCrLf_of_not_mem (h : '\n' ∉ line) : countCrLf line = 0 :=
  (toLf_eq_self_iff line).1 (toLf_of_not_mem h)

theorem countCrLf_append_break (h : '\n' ∉ line) (s : List Char) :
    countCrLf (line ++ '\n' :: s) = (if endsCr line then 1 else 0) + countCrLf s := by
  induction line with
  | nil => simp [countCrLf_cons, endsCr]
  | cons c line ih =>
    have hline : '\n' ∉ line := fun hm => h (List.mem_cons_of_mem _ hm)
    rw [List.cons_append, countCrLf_cons, ih hline]
    cases line with
    | nil => simp [endsCr]
    | cons d line =>
      have hd : d ≠ '\n' := fun hd => hline (hd ▸ List.mem_cons_self ..)
      simp [endsCr, hd]

theorem countCrLf_join (hlines : ∀ line ∈ lines, '\n' ∉ line) (hrest : '\n' ∉ rest) :
    countCrLf (join lines rest) = lines.countP endsCr := by
  induction lines with
  | nil => exact countCrLf_of_not_mem hrest
  | cons line lines ih =>
    obtain ⟨hline, hlines⟩ := List.forall_mem_cons.1 hlines
    rw [join, countCrLf_append_break hline, ih hlines, List.countP_cons, Nat.add_comm]

theorem count_join (hlines : ∀ line ∈ lines, '\n' ∉ line) (hrest : '\n' ∉ rest) :
    (join lines rest).count '\n' = lines.length := by
  induction lines with
  | nil => exact List.count_eq_zero.2 hrest
  | cons line lines ih =>
    obtain ⟨hline, hlines⟩ := List.forall_mem_cons.1 hlines
    rw [join, List.count_append, List.count_eq_zero.2 hline, List.count_cons_self, ih hlines]
    simp

theorem countBareLf_join (hlines : ∀ line ∈ lines, '\n' ∉ line) (hrest : '\n' ∉ rest) :
    countBareLf (join lines rest) = lines.countP (!endsCr ·) := by
  have hall := List.length_eq_countP_add_countP endsCr (l := lines)
  rw [countBareLf, count_join hlines hrest, countCrLf_join hlines hrest]
  simp only [Bool.not_eq_true, Bool.decide_eq_false] at hall
  omega

theorem countCrLf_pos_iff (s : List Char) : 0 < countCrLf s ↔ ['\r', '\n'] <:+: s := by
  obtain ⟨lines, rest, hlines, hrest, rfl⟩ := exists_join s
  have hpair := infix_join_iff ['\r'] (by decide) hlines hrest
  rw [List.singleton_append] at hpair
  simp only [countCrLf_join hlines hrest, List.countP_pos_iff, hpair, endsCr_iff]

theorem countBareLf_pos_iff (s : List Char) : 0 < countBareLf s ↔ HasBreakWithout ['\r'] s := by
  obtain ⟨lines, rest, hlines, hrest, rfl⟩ := exists_join s
  simp only [countBareLf_join hlines hrest, List.countP_pos_iff,
    hasBreakWithout_join_iff ['\r'] (by decide) hlines hrest, ← endsCr_iff,
    Bool.not_eq_true, Bool.not_eq_true']

theorem detect_eq_lf_iff (s : String) : detect s = .lf ↔ ¬ ['\r', '\n'] <:+: s.toList := by
  rw [← countCrLf_pos_iff, detect]
  split_ifs <;> simp_all

theorem detect_eq_mixed_iff (s : String) :
    detect s = .mixed ↔ ['\r', '\n'] <:+: s.toList ∧ HasBreakWithout ['\r'] s.toList := by
  rw [← countCrLf_pos_iff, ← countBareLf_pos_iff, detect]
  split_ifs <;> simp_all

/-! ### Converting to CR LF -/

theorem flatMap_of_not_mem (h : '\n' ∉ line) :
    (line.flatMap fun c => if c = '\n' then ['\r', '\n'] else [c]) = line := by
  induction line with
  | nil => rfl
  | cons c line ih =>
    have hc : c ≠ '\n' := fun hc => h (hc ▸ List.mem_cons_self ..)
    rw [List.flatMap_cons, if_neg hc, ih fun hm => h (List.mem_cons_of_mem _ hm)]
    rfl

/-- Converting to CR LF puts one CR at the end of each line that had none. -/
theorem toCrLf_join (hlines : ∀ line ∈ lines, '\n' ∉ line) (hrest : '\n' ∉ rest) :
    toCrLf (join lines rest) = join (lines.map (chop · ++ ['\r'])) rest := by
  rw [toCrLf, toLf_join hlines hrest]
  induction lines with
  | nil => exact flatMap_of_not_mem hrest
  | cons line lines ih =>
    obtain ⟨hline, hlines⟩ := List.forall_mem_cons.1 hlines
    rw [List.map_cons, join, List.flatMap_append, flatMap_of_not_mem (not_mem_chop hline),
      List.flatMap_cons, ih hlines]
    simp [join]

theorem not_mem_map_chop_concat (hlines : ∀ line ∈ lines, '\n' ∉ line) :
    ∀ line ∈ lines.map (chop · ++ ['\r']), '\n' ∉ line := by
  simpa [List.forall_mem_map] using fun line hm => not_mem_chop (hlines line hm)

theorem not_hasBreakWithout_toCrLf (s : List Char) : ¬ HasBreakWithout ['\r'] (toCrLf s) := by
  obtain ⟨lines, rest, hlines, hrest, rfl⟩ := exists_join s
  rw [toCrLf_join hlines hrest,
    hasBreakWithout_join_iff _ (by decide) (not_mem_map_chop_concat hlines) hrest]
  simp

end LineBreak

end ToolRelay
