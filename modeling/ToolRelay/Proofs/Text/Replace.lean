import Mathlib.Data.List.Infix
import ToolRelay.Text.Replace

/-!
# Replacing a mark in a text

A text is cut at the occurrences of a mark into pieces in which the mark does not occur.  Replacing
the mark joins the same pieces by something else, which is not searched again.  A mark whose first
character does not come back in it cannot overlap itself, so it does not matter where a text is cut
first.

* `Text.exists_cuts` : every text can be cut.
* `Text.Cuts.toList_replace` : replacing joins the pieces anew.
-/

namespace ToolRelay

namespace Text

variable {c : Char} {cs new piece rest : List Char}

/-! ### One piece and one mark -/

theorem replaceFrom_eq_append (mark new : List Char) (skip : Nat) (done s : List Char) :
    replaceFrom mark new skip done s = done.reverse ++ replaceFrom mark new skip [] s := by
  induction s generalizing skip done with
  | nil => cases skip <;> simp [replaceFrom]
  | cons a s ih =>
    cases skip with
    | succ skip => exact ih skip done
    | zero =>
      simp only [replaceFrom]
      split_ifs with h
      · rw [ih, ih _ (new.reverse ++ [])]
        simp
      · rw [ih, ih _ [a]]
        simp

/-- The characters of an occurrence are passed over. -/
theorem replaceFrom_length (mark new done : List Char) (xs s : List Char) :
    replaceFrom mark new xs.length done (xs ++ s) = replaceFrom mark new 0 done s := by
  induction xs with
  | nil => rfl
  | cons x xs ih => exact ih

theorem replaceFrom_mark (c : Char) (cs new s : List Char) :
    replaceFrom (c :: cs) new 0 [] ((c :: cs) ++ s) = new ++ replaceFrom (c :: cs) new 0 [] s := by
  have hp : (c :: cs).isPrefixOf (c :: (cs ++ s)) = true :=
    List.isPrefixOf_iff_prefix.2 (List.prefix_append (c :: cs) s)
  rw [List.cons_append, replaceFrom, if_pos hp, List.append_nil, List.length_cons,
    Nat.add_sub_cancel, replaceFrom_length, replaceFrom_eq_append, List.reverse_reverse]

/-- Characters at which no mark begins stay as they are. -/
theorem replaceFrom_append {mark : List Char} (new : List Char)
    (h : ∀ t, t ≠ [] → t <:+ piece → ¬ mark <+: t ++ rest) :
    replaceFrom mark new 0 [] (piece ++ rest) = piece ++ replaceFrom mark new 0 [] rest := by
  induction piece with
  | nil => rfl
  | cons a piece ih =>
    have ha : ¬ mark.isPrefixOf (a :: (piece ++ rest)) = true := fun hp =>
      h _ (List.cons_ne_nil _ _) (List.suffix_refl _) (List.isPrefixOf_iff_prefix.1 hp)
    have hpiece := ih fun t ht hs => h t ht (hs.trans (List.suffix_cons a piece))
    rw [List.cons_append, replaceFrom, if_neg ha, replaceFrom_eq_append, hpiece]
    rfl

/-- A mark does not begin inside a piece without it, not even across the end of the piece, where
the text ends or the next mark begins. -/
theorem no_mark_ahead (hc : c ∉ cs) (h : ¬ (c :: cs) <:+: piece)
    (hrest : ∀ e ∈ rest.head?, e = c) :
    ∀ t, t ≠ [] → t <:+ piece → ¬ (c :: cs) <+: t ++ rest := by
  rintro t ht hs ⟨after, heq⟩
  have hinside : ¬ (c :: cs) <+: t := fun hp => h (hp.isInfix.trans hs.isInfix)
  obtain ⟨z, rfl, -⟩ | ⟨z, hmark, hz⟩ := List.append_eq_append_iff.1 heq
  · exact hinside (List.prefix_append _ _)
  · obtain ⟨b, t, rfl⟩ := List.exists_cons_of_ne_nil ht
    obtain ⟨rfl, rfl⟩ : c = b ∧ cs = t ++ z := by simpa using hmark
    cases z with
    | nil => exact hinside (by simp)
    | cons e z =>
      -- the mark would go on with the beginning of a mark
      obtain rfl : e = c := hrest e (by rw [hz]; rfl)
      exact hc (by simp)

/-! ### All pieces -/

/-- Pieces without a mark, with the mark between neighbours, are the text `s`. -/
structure Cuts (mark s : List Char) (pieces : List (List Char)) : Prop where
  /-- The pieces and the marks between them are the text. -/
  eq_intercalate : s = List.intercalate mark pieces
  /-- The mark does not occur in a piece. -/
  no_mark : ∀ piece ∈ pieces, ¬ mark <:+: piece

theorem intercalate_append {sep : List Char} {ps qs : List (List Char)} (hps : ps ≠ [])
    (hqs : qs ≠ []) :
    List.intercalate sep (ps ++ qs) =
      List.intercalate sep ps ++ sep ++ List.intercalate sep qs := by
  obtain ⟨q, qs, rfl⟩ := List.exists_cons_of_ne_nil hqs
  induction ps with
  | nil => exact absurd rfl hps
  | cons p ps ih =>
    cases ps with
    | nil => simp
    | cons r ps =>
      have h := ih (List.cons_ne_nil r ps)
      rw [List.cons_append] at h
      rw [List.cons_append, List.cons_append, List.intercalate_cons_cons, h,
        List.intercalate_cons_cons]
      simp only [List.append_assoc]

/-- Every text can be cut at a mark. -/
theorem exists_cuts {mark : List Char} (hmark : mark ≠ []) (s : List Char) :
    ∃ pieces, pieces ≠ [] ∧ Cuts mark s pieces := by
  induction hn : s.length using Nat.strong_induction_on generalizing s with
  | _ n ih =>
    by_cases h : mark <:+: s
    · obtain ⟨before, after, rfl⟩ := h
      have hpos := List.length_pos_of_ne_nil hmark
      simp only [List.length_append] at hn
      obtain ⟨ps, hps, hbefore⟩ := ih before.length (by omega) before rfl
      obtain ⟨qs, hqs, hafter⟩ := ih after.length (by omega) after rfl
      refine ⟨ps ++ qs, by simp [hps], ?_, List.forall_mem_append.2
        ⟨hbefore.no_mark, hafter.no_mark⟩⟩
      rw [intercalate_append hps hqs, ← hbefore.eq_intercalate, ← hafter.eq_intercalate]
    · exact ⟨[s], List.cons_ne_nil _ _, (List.intercalate_singleton ..).symm,
        List.forall_mem_singleton.2 h⟩

theorem replaceFrom_intercalate (hc : c ∉ cs) (new : List Char) {pieces : List (List Char)}
    (h : ∀ piece ∈ pieces, ¬ (c :: cs) <:+: piece) :
    replaceFrom (c :: cs) new 0 [] (List.intercalate (c :: cs) pieces) =
      List.intercalate new pieces := by
  induction pieces with
  | nil => rfl
  | cons piece rest ih =>
    obtain ⟨hpiece, hrest⟩ := List.forall_mem_cons.1 h
    cases rest with
    | nil =>
      have hnil : ∀ e ∈ ([] : List Char).head?, e = c := nofun
      have hlast := replaceFrom_append new (no_mark_ahead hc hpiece hnil)
      rw [List.append_nil] at hlast
      rw [List.intercalate_singleton, List.intercalate_singleton, hlast]
      exact List.append_nil _
    | cons next rest =>
      have hhead : ∀ e ∈ ((c :: cs) ++ List.intercalate (c :: cs) (next :: rest)).head?, e = c :=
        fun e he => (Option.some.inj he).symm
      rw [List.intercalate_cons_cons, List.intercalate_cons_cons, List.append_assoc,
        replaceFrom_append new (no_mark_ahead hc hpiece hhead), replaceFrom_mark, ih hrest,
        List.append_assoc]

/-- **Replacing a mark joins the same pieces by something else.** -/
theorem Cuts.toList_replace {mark s : String} {pieces : List (List Char)}
    (h : Cuts mark.toList s.toList pieces) (hmark : mark.toList = c :: cs) (hc : c ∉ cs)
    (new : String) :
    (replace mark new s).toList = List.intercalate new.toList pieces := by
  have hpieces := h.no_mark
  rw [replace, String.toList_ofList, h.eq_intercalate]
  rw [hmark] at hpieces ⊢
  exact replaceFrom_intercalate hc new.toList hpieces

end Text

end ToolRelay
