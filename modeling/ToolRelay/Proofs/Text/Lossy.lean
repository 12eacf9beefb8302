import Mathlib.Data.List.Basic
import ToolRelay.Proofs.Text.Utf8

/-!
# What replacing flaws loses

Text that is shown for octets has U+FFFD in the place of each flaw, so different octets may be shown
in the same way.  The octets of that text are `Utf8.shown`.

* `Utf8.shown_append_cons` : an octet below `0x80` is never part of a flaw, so that what stands
  before it and what stands after it are shown on their own;
* `Utf8.shown_eq_self` : nothing is lost if U+FFFD is not shown;
* `Utf8.exists_shown_alike` : where U+FFFD is shown, other octets are shown in the same way.
-/

namespace ToolRelay

namespace Utf8

/-- The octets of the text that is shown for octets. -/
def shown (bs : Bytes) : Bytes := encode (lossy bs)

variable {bs xs ys : Bytes} {b : UInt8}

theorem lossy_shown (bs : Bytes) : lossy (shown bs) = lossy bs := lossy_encode _

theorem shown_shown (bs : Bytes) : shown (shown bs) = shown bs := congrArg encode (lossy_shown bs)

/-! ### The machine at an octet below `0x80` -/

namespace State

/-- The state `s` when the pieces `found` had been found before. -/
def after (found : List Piece) (s : State) : State := { s with found := s.found ++ found }

theorem lead_after (found new : List Piece) (b : UInt8) :
    lead (new ++ found) b = (lead new b).after found := by
  simp only [lead, apply_ite (after found)]
  rfl

theorem step_after (found : List Piece) (s : State) (b : UInt8) :
    (s.after found).step b = (s.step b).after found := by
  unfold step
  simp only [apply_ite (after found), ← lead_after]
  rfl

theorem foldl_after (found : List Piece) (s : State) (bs : Bytes) :
    bs.foldl step (s.after found) = (bs.foldl step s).after found := by
  induction bs generalizing s with
  | nil => rfl
  | cons b bs ih => rw [List.foldl_cons, step_after, ih, List.foldl_cons]

theorem finish_after (found : List Piece) (s : State) :
    (s.after found).finish = found.reverse ++ s.finish := by
  rw [finish, finish, apply_ite (found.reverse ++ ·), ← List.reverse_append, ← List.reverse_append]
  rfl

/-- What has been found does not matter for what is found later. -/
theorem finish_foldl_idle (found : List Piece) (bs : Bytes) :
    (bs.foldl step (idle found)).finish = found.reverse ++ pieces bs := by
  have h : idle found = start.after found := rfl
  rw [h, foldl_after, finish_after, pieces]

theorem low_lead (found : List Piece) (b : UInt8) : 0x80 ≤ (lead found b).low := by
  unfold lead
  dsimp only
  repeat' split
  all_goals simp

theorem low_step (s : State) (b : UInt8) : 0x80 ≤ (s.step b).low := by
  unfold step
  split_ifs
  · exact low_lead _ _
  · simp
  · simp
  · exact low_lead _ _

/-- What continues a character is never below `0x80`. -/
theorem low_foldl {s : State} (h : 0x80 ≤ s.low) (bs : Bytes) : 0x80 ≤ (bs.foldl step s).low := by
  induction bs generalizing s with
  | nil => exact h
  | cons b bs ih => exact ih (low_step s b)

/-- An octet below `0x80` ends what stands before it as the end of the sequence would. -/
theorem step_of_lt {s : State} (h : 0x80 ≤ s.low) (hb : b.toNat < 0x80) :
    ∃ found, s.step b = idle (.char (Char.ofNat b.toNat) :: found) ∧
      found.reverse.map Piece.shown = s.finish.map Piece.shown := by
  unfold step finish
  split_ifs with h0 hr
  · exact ⟨s.found, lead_one _ (by omega), rfl⟩
  · omega
  · omega
  · -- a flaw is shown like a character that is cut off
    refine ⟨_, lead_one _ (by omega), ?_⟩
    simp [Piece.shown]

end State

/-- **An octet below `0x80` is shown as it is**, between what is shown for the octets before it and
for those after it. -/
theorem toList_lossy_append_cons (hb : b.toNat < 0x80) :
    (lossy (xs ++ b :: ys)).toList =
      (lossy xs).toList ++ Char.ofNat b.toNat :: (lossy ys).toList := by
  have hlow : 0x80 ≤ (xs.foldl State.step State.start).low := State.low_foldl (by decide) xs
  obtain ⟨found, hstep, hfound⟩ := State.step_of_lt hlow hb
  simp only [lossy, String.toList_ofList]
  rw [pieces, List.foldl_append, List.foldl_cons, hstep, State.finish_foldl_idle]
  simp [hfound, Piece.shown, pieces]

theorem shown_append_cons (hb : b.toNat < 0x80) :
    shown (xs ++ b :: ys) = shown xs ++ b :: shown ys := by
  rw [shown, encode, toList_lossy_append_cons hb, List.flatMap_append, List.flatMap_cons,
    encodeChar_one (Nat.le_of_lt_succ hb)]
  rfl

theorem shown_cons (hb : b.toNat < 0x80) : shown (b :: bs) = b :: shown bs :=
  @shown_append_cons [] bs b hb

/-! ### What is shown and what is there -/

theorem shown_eq_flatMap (bs : Bytes) :
    shown bs = (pieces bs).flatMap fun piece => String.utf8EncodeChar piece.shown := by
  rw [shown, lossy, encode_ofList, List.flatMap_map]

theorem encodeChar_replacement : String.utf8EncodeChar '\uFFFD' = [0xEF, 0xBF, 0xBD] := by decide

/-- **Nothing is lost if U+FFFD is not shown.** -/
theorem shown_eq_self (h : '\uFFFD' ∉ (lossy bs).toList) : shown bs = bs := by
  have hchars : ∀ piece ∈ pieces bs, String.utf8EncodeChar piece.shown = piece.bytes := by
    intro piece hp
    cases piece with
    | char c => rfl
    | flaw _ | cut _ =>
      refine absurd ?_ h
      rw [lossy, String.toList_ofList]
      exact List.mem_map_of_mem hp
  calc shown bs = (pieces bs).flatMap fun piece => String.utf8EncodeChar piece.shown :=
        shown_eq_flatMap bs
    _ = (pieces bs).flatMap Piece.bytes := List.flatMap_congr hchars
    _ = bs := flatMap_bytes_pieces bs

/-- An octet below `0x80` is shown exactly where it is there. -/
theorem mem_shown_iff (hb : b.toNat < 0x80) : b ∈ shown bs ↔ b ∈ bs := by
  constructor
  · intro h
    rw [shown_eq_flatMap] at h
    obtain ⟨piece, hp, hmem⟩ := List.mem_flatMap.1 h
    cases piece with
    | char c =>
      rw [← flatMap_bytes_pieces bs]
      exact List.mem_flatMap.2 ⟨_, hp, hmem⟩
    | flaw _ | cut _ =>
      have hone : String.utf8EncodeChar '\uFFFD' = [b] := (encodeChar_of_mem hb hmem).1
      simp [encodeChar_replacement] at hone
  · intro h
    obtain ⟨xs, ys, rfl⟩ := List.append_of_mem h
    rw [shown_append_cons hb]
    simp

theorem shown_of_lt {cs : Bytes} (hcs : ∀ b ∈ cs, b.toNat < 0x80) : shown cs = cs := by
  induction cs with
  | nil => rfl
  | cons b cs ih =>
    obtain ⟨hb, hcs⟩ := List.forall_mem_cons.1 hcs
    rw [shown_cons hb, ih hcs]

/-- Octets below `0x80` are shown exactly where they are there. -/
theorem shown_eq_iff {cs : Bytes} (hcs : ∀ b ∈ cs, b.toNat < 0x80) : shown bs = cs ↔ bs = cs := by
  constructor
  · rintro rfl
    refine (shown_eq_self fun h => ?_).symm
    have hfirst : 0xEF ∈ shown bs :=
      List.mem_flatMap.2 ⟨_, h, by rw [encodeChar_replacement]; exact List.mem_cons_self ..⟩
    exact absurd (hcs _ hfirst) (by decide)
  · rintro rfl
    exact shown_of_lt hcs

/-! ### Octets that are shown in the same way -/

theorem toList_lossy_flaw (before after : List Char) :
    (lossy (before.flatMap String.utf8EncodeChar ++
      0xFF :: after.flatMap String.utf8EncodeChar)).toList = before ++ '\uFFFD' :: after := by
  have hstart : State.start = State.idle [] := rfl
  have hflaw (found : List Piece) :
      (State.idle found).step 0xFF = State.idle (.flaw [0xFF] :: found) := rfl
  rw [lossy, String.toList_ofList, pieces, List.foldl_append, List.foldl_cons, hstart,
    State.foldl_encode, hflaw, State.foldl_encode]
  simp [State.finish, State.idle, Piece.shown, Function.comp_def]

/-- **Where U+FFFD is shown, other octets are shown in the same way**: it is there, and could be
a flaw instead, or there is a flaw, and it could be there instead. -/
theorem exists_shown_alike (h : '\uFFFD' ∈ (lossy bs).toList) :
    ∃ others, others ≠ bs ∧ shown others = shown bs := by
  by_cases hs : shown bs = bs
  · obtain ⟨before, after, hsplit⟩ := List.append_of_mem h
    refine ⟨before.flatMap String.utf8EncodeChar ++ 0xFF :: after.flatMap String.utf8EncodeChar,
      fun heq => ?_, ?_⟩
    · -- U+FFFD takes three octets, and the flaw is one
      have hlength := congrArg List.length (heq.trans hs.symm)
      rw [shown, encode, hsplit, List.flatMap_append, List.flatMap_cons,
        encodeChar_replacement] at hlength
      simp at hlength
    · refine congrArg encode (String.toList_inj.1 ?_)
      rw [toList_lossy_flaw, hsplit]
  · -- there is a flaw, which is shown as U+FFFD
    exact ⟨shown bs, hs, shown_shown bs⟩

end Utf8

end ToolRelay
