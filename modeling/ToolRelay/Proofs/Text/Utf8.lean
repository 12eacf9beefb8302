import Mathlib.Tactic.SplitIfs
import ToolRelay.Text.Utf8

/-!
# Reading UTF-8 is the inverse of writing it

The machine of `Utf8.pieces` loses no octet (`flatMap_bytes_pieces`) and reads back every text
that was written (`pieces_encode`).  Hence

* `decode?_eq_some_iff` : a sequence is read as a text iff it is what is written for the text;
* `firstFlaw?_eq_none_iff` : strict decoding finds no flaw iff the sequence is what is written for
  some text, and replacing flaws then gives that text (`lossy_encode`);
* `encode_eq_append_cons` : an octet below `0x80` in a written text is a character of its own, so a
  written text can be cut there.
-/

namespace ToolRelay

namespace Utf8

/-! ### Octets of one character -/

theorem toNat_ofNat_of_valid {n : Nat} (h : n.isValidChar) : (Char.ofNat n).toNat = n := by
  rw [Char.ofNat, dif_pos h]
  rfl

theorem toNat_lt (c : Char) : c.toNat < 0xD800 ∨ 0xDFFF < c.toNat ∧ c.toNat < 0x110000 := c.valid

theorem encodeChar_one {a : UInt8} (ha : a.toNat ≤ 0x7F) :
    String.utf8EncodeChar (Char.ofNat a.toNat) = [a] := by
  have hv : a.toNat.isValidChar := by
    left; omega
  have hn := toNat_ofNat_of_valid hv
  simp only [Char.toNat] at hn
  simp only [String.utf8EncodeChar, hn, if_pos ha, UInt8.ofNat_toNat]

theorem encodeChar_two {a b : UInt8} (ha : 0xC2 ≤ a.toNat) (ha' : a.toNat ≤ 0xDF)
    (hb : 0x80 ≤ b.toNat) (hb' : b.toNat ≤ 0xBF) :
    String.utf8EncodeChar (Char.ofNat ((a.toNat - 0xC0) * 64 + (b.toNat - 0x80))) = [a, b] := by
  have hv : ((a.toNat - 0xC0) * 64 + (b.toNat - 0x80)).isValidChar := by
    left; omega
  have hc := toNat_ofNat_of_valid hv
  simp only [Char.toNat] at hc
  simp only [String.utf8EncodeChar, hc]
  rw [if_neg (by omega), if_pos (by omega)]
  simp only [List.cons.injEq, and_true, ← UInt8.toNat_inj, UInt8.toNat_ofNat']
  omega

theorem encodeChar_three {a b c : UInt8} (ha : 0xE0 ≤ a.toNat) (ha' : a.toNat ≤ 0xEF)
    (hb : 0x80 ≤ b.toNat) (hb' : b.toNat ≤ 0xBF) (hc : 0x80 ≤ c.toNat) (hc' : c.toNat ≤ 0xBF)
    (hlow : a.toNat = 0xE0 → 0xA0 ≤ b.toNat) (hhigh : a.toNat = 0xED → b.toNat ≤ 0x9F) :
    String.utf8EncodeChar (Char.ofNat
      (((a.toNat - 0xE0) * 64 + (b.toNat - 0x80)) * 64 + (c.toNat - 0x80))) = [a, b, c] := by
  have hv : (((a.toNat - 0xE0) * 64 + (b.toNat - 0x80)) * 64 + (c.toNat - 0x80)).isValidChar := by
    by_cases h : a.toNat ≤ 0xED
    · left; omega
    · right; omega
  have hn := toNat_ofNat_of_valid hv
  simp only [Char.toNat] at hn
  simp only [String.utf8EncodeChar, hn]
  rw [if_neg (by omega), if_neg (by omega), if_pos (by omega)]
  simp only [List.cons.injEq, and_true, ← UInt8.toNat_inj, UInt8.toNat_ofNat']
  omega

theorem encodeChar_four {a b c d : UInt8} (ha : 0xF0 ≤ a.toNat) (ha' : a.toNat ≤ 0xF4)
    (hb : 0x80 ≤ b.toNat) (hb' : b.toNat ≤ 0xBF) (hc : 0x80 ≤ c.toNat) (hc' : c.toNat ≤ 0xBF)
    (hd : 0x80 ≤ d.toNat) (hd' : d.toNat ≤ 0xBF) (hlow : a.toNat = 0xF0 → 0x90 ≤ b.toNat)
    (hhigh : a.toNat = 0xF4 → b.toNat ≤ 0x8F) :
    String.utf8EncodeChar (Char.ofNat
      ((((a.toNat - 0xF0) * 64 + (b.toNat - 0x80)) * 64 + (c.toNat - 0x80)) * 64 +
        (d.toNat - 0x80))) = [a, b, c, d] := by
  have hv : ((((a.toNat - 0xF0) * 64 + (b.toNat - 0x80)) * 64 + (c.toNat - 0x80)) * 64 +
      (d.toNat - 0x80)).isValidChar := by
    right; omega
  have hn := toNat_ofNat_of_valid hv
  simp only [Char.toNat] at hn
  simp only [String.utf8EncodeChar, hn]
  rw [if_neg (by omega), if_neg (by omega), if_neg (by omega)]
  simp only [List.cons.injEq, and_true, ← UInt8.toNat_inj, UInt8.toNat_ofNat']
  omega

/-! ### The machine loses nothing -/

namespace State

/-- The octets that the machine has read. -/
def read (s : State) : Bytes := s.found.reverse.flatMap Piece.bytes ++ s.pending.reverse

/-- Whatever completes the unfinished character gives a character that is written like that. -/
def Sound (s : State) : Prop :=
  match s.need with
  | 0 => s.pending = []
  | 1 => ∀ b : UInt8, s.low ≤ b.toNat → b.toNat ≤ s.high →
      String.utf8EncodeChar (Char.ofNat (s.value * 64 + (b.toNat - 0x80))) =
        s.pending.reverse ++ [b]
  | 2 => ∀ b c : UInt8, s.low ≤ b.toNat → b.toNat ≤ s.high → 0x80 ≤ c.toNat → c.toNat ≤ 0xBF →
      String.utf8EncodeChar
          (Char.ofNat ((s.value * 64 + (b.toNat - 0x80)) * 64 + (c.toNat - 0x80))) =
        s.pending.reverse ++ [b, c]
  | 3 => ∀ b c d : UInt8, s.low ≤ b.toNat → b.toNat ≤ s.high → 0x80 ≤ c.toNat → c.toNat ≤ 0xBF →
      0x80 ≤ d.toNat → d.toNat ≤ 0xBF →
      String.utf8EncodeChar
          (Char.ofNat (((s.value * 64 + (b.toNat - 0x80)) * 64 + (c.toNat - 0x80)) * 64 +
            (d.toNat - 0x80))) =
        s.pending.reverse ++ [b, c, d]
  | _ => False

theorem sound_lead (found : List Piece) (b : UInt8) : (lead found b).Sound := by
  have hb := b.toNat_lt
  simp only [lead]
  split_ifs with h1 h2 h3 h4 h5 h6 h7 h8 h9 <;> simp only [Sound, List.reverse_singleton,
    List.singleton_append]
  · intro c hc hc'
    exact encodeChar_two (by omega) h3 hc hc'
  · intro c d hc hc' hd hd'
    have := encodeChar_three (a := b) (b := c) (by omega) (by omega) (by omega) hc' hd hd'
      (fun _ => hc) (by omega)
    simpa only [h4, Nat.sub_self] using this
  · intro c d hc hc' hd hd'
    have := encodeChar_three (a := b) (b := c) (by omega) (by omega) hc (by omega) hd hd'
      (by omega) (fun _ => hc')
    simpa only [h5, Nat.reduceSub] using this
  · intro c d hc hc' hd hd'
    exact encodeChar_three (by omega) h6 hc hc' hd hd' (by omega) (by omega)
  · intro c d e hc hc' hd hd' he he'
    have := encodeChar_four (a := b) (b := c) (by omega) (by omega) (by omega) hc' hd hd' he he'
      (fun _ => hc) (by omega)
    simpa only [h7, Nat.sub_self] using this
  · intro c d e hc hc' hd hd' he he'
    exact encodeChar_four (by omega) (by omega) hc hc' hd hd' he he' (by omega) (by omega)
  · intro c d e hc hc' hd hd' he he'
    have := encodeChar_four (a := b) (b := c) (by omega) (by omega) hc (by omega) hd hd' he he'
      (by omega) (fun _ => hc')
    simpa only [h9, Nat.reduceSub] using this

theorem sound_step {s : State} (h : s.Sound) (b : UInt8) : (s.step b).Sound := by
  unfold step
  split_ifs with h0 hr h1
  · exact sound_lead _ _
  · simp [Sound]
  · -- an octet that continues the character leaves what the old state knew of the other ones
    obtain ⟨hlow, hhigh⟩ := hr
    revert h
    unfold Sound
    match hn : s.need with
    | 0 => exact absurd hn h0
    | 1 => exact absurd hn h1
    | 2 =>
      intro h c hc hc'
      simpa using h b c hlow hhigh hc hc'
    | 3 =>
      intro h c d hc hc' hd hd'
      simpa using h b c d hlow hhigh hc hc' hd hd'
    | n + 4 => exact fun h => h.elim
  · exact sound_lead _ _

theorem read_lead (found : List Piece) (b : UInt8) :
    (lead found b).read = found.reverse.flatMap Piece.bytes ++ [b] := by
  have hb := b.toNat_lt
  unfold lead
  simp only
  split_ifs with h1 <;> simp [read, Piece.bytes]
  exact encodeChar_one h1

theorem read_step {s : State} (h : s.Sound) (b : UInt8) : (s.step b).read = s.read ++ [b] := by
  unfold step
  split_ifs with h0 hr h1
  -- an octet that begins a character
  · have hp : s.pending = [] := by simpa only [Sound, h0] using h
    rw [read_lead, read, hp]
    simp
  -- the last octet of a character: what is pending was written for it
  · have hc : String.utf8EncodeChar (Char.ofNat (s.value * 64 + (b.toNat - 0x80))) =
        s.pending.reverse ++ [b] := by
      simp only [Sound, h1] at h
      exact h b hr.1 hr.2
    simp [read, Piece.bytes, hc]
  · simp [read]
  · rw [read_lead]
    simp [read, Piece.bytes]

theorem sound_foldl {s : State} (h : s.Sound) (bs : Bytes) : (bs.foldl step s).Sound := by
  induction bs generalizing s with
  | nil => exact h
  | cons b bs ih => exact ih (sound_step h b)

theorem read_foldl {s : State} (h : s.Sound) (bs : Bytes) :
    (bs.foldl step s).read = s.read ++ bs := by
  induction bs generalizing s with
  | nil => simp
  | cons b bs ih => rw [List.foldl_cons, ih (sound_step h b), read_step h b]; simp

theorem flatMap_bytes_finish {s : State} (h : s.Sound) :
    s.finish.flatMap Piece.bytes = s.read := by
  unfold finish
  split_ifs with h0
  · have hp : s.pending = [] := by simpa only [Sound, h0] using h
    simp [read, hp]
  · simp [read, Piece.bytes]

end State

/-- **No octet is lost**: the pieces of a sequence are the sequence. -/
theorem flatMap_bytes_pieces (bs : Bytes) : (pieces bs).flatMap Piece.bytes = bs := by
  have hs : State.start.Sound := rfl
  rw [pieces, State.flatMap_bytes_finish (State.sound_foldl hs bs), State.read_foldl hs]
  rfl

/-! ### The machine reads what was written -/

namespace State

/-- The state between two characters. -/
def idle (found : List Piece) : State := ⟨[], 0, 0x80, 0xBF, 0, found⟩

theorem step_idle (found : List Piece) (b : UInt8) : (idle found).step b = lead found b := rfl

theorem lead_one {b : UInt8} (found : List Piece) (h : b.toNat ≤ 0x7F) :
    lead found b = idle (.char (Char.ofNat b.toNat) :: found) := by
  simp only [lead, idle]
  rw [if_pos h]

theorem lead_two {b : UInt8} (found : List Piece) (h : 0xC2 ≤ b.toNat) (h' : b.toNat ≤ 0xDF) :
    lead found b = ⟨[b], 1, 0x80, 0xBF, b.toNat - 0xC0, found⟩ := by
  simp only [lead]
  rw [if_neg (by omega), if_neg (by omega), if_pos h']

theorem lead_three {b : UInt8} (found : List Piece) (h : 0xE0 ≤ b.toNat) (h' : b.toNat ≤ 0xEF) :
    lead found b = ⟨[b], 2, if b.toNat = 0xE0 then 0xA0 else 0x80,
      if b.toNat = 0xED then 0x9F else 0xBF, b.toNat - 0xE0, found⟩ := by
  simp only [lead]
  rw [if_neg (by omega), if_neg (by omega), if_neg (by omega)]
  split_ifs <;> simp_all

theorem lead_four {b : UInt8} (found : List Piece) (h : 0xF0 ≤ b.toNat) (h' : b.toNat ≤ 0xF4) :
    lead found b = ⟨[b], 3, if b.toNat = 0xF0 then 0x90 else 0x80,
      if b.toNat = 0xF4 then 0x8F else 0xBF, b.toNat - 0xF0, found⟩ := by
  simp only [lead]
  rw [if_neg (by omega), if_neg (by omega), if_neg (by omega), if_neg (by omega),
    if_neg (by omega), if_neg (by omega)]
  split_ifs <;> simp_all <;> omega

theorem step_more {pending : Bytes} {need low high value : Nat} {found : List Piece} {b : UInt8}
    (hlow : low ≤ b.toNat) (hhigh : b.toNat ≤ high) :
    (State.mk pending (need + 2) low high value found).step b =
      ⟨b :: pending, need + 1, 0x80, 0xBF, value * 64 + (b.toNat - 0x80), found⟩ := by
  simp [step, hlow, hhigh]

theorem step_last {pending : Bytes} {low high value : Nat} {found : List Piece} {b : UInt8}
    (hlow : low ≤ b.toNat) (hhigh : b.toNat ≤ high) :
    (State.mk pending 1 low high value found).step b =
      idle (.char (Char.ofNat (value * 64 + (b.toNat - 0x80))) :: found) := by
  simp [step, idle, hlow, hhigh]

theorem foldl_encodeChar (found : List Piece) (c : Char) :
    (String.utf8EncodeChar c).foldl step (idle found) = idle (.char c :: found) := by
  have hv := toNat_lt c
  have hc := Char.ofNat_toNat c
  have hm {n : Nat} (h : n < 256) : (UInt8.ofNat n).toNat = n := by
    rw [UInt8.toNat_ofNat', Nat.mod_eq_of_lt h]
  simp only [Char.toNat] at hv hc
  simp only [String.utf8EncodeChar]
  split_ifs with h1 h2 h3 <;> simp only [List.foldl_cons, List.foldl_nil, step_idle]
  · rw [lead_one found (by rw [hm (by omega)]; exact h1), hm (by omega), hc]
  · have e1 := hm (n := c.val.toNat / 64 % 32 + 192) (by omega)
    have e2 := hm (n := c.val.toNat % 64 + 128) (by omega)
    rw [lead_two found (by omega) (by omega), step_last (by omega) (by omega), e1, e2]
    exact congrArg (idle <| .char · :: found) ((congrArg Char.ofNat (by omega)).trans hc)
  · have e1 := hm (n := c.val.toNat / 4096 % 16 + 224) (by omega)
    have e2 := hm (n := c.val.toNat / 64 % 64 + 128) (by omega)
    have e3 := hm (n := c.val.toNat % 64 + 128) (by omega)
    rw [lead_three found (by omega) (by omega),
      step_more (by rw [e1, e2]; split_ifs <;> omega) (by rw [e1, e2]; split_ifs <;> omega),
      step_last (by omega) (by omega), e1, e2, e3]
    exact congrArg (idle <| .char · :: found) ((congrArg Char.ofNat (by omega)).trans hc)
  · have e1 := hm (n := c.val.toNat / 262144 % 8 + 240) (by omega)
    have e2 := hm (n := c.val.toNat / 4096 % 64 + 128) (by omega)
    have e3 := hm (n := c.val.toNat / 64 % 64 + 128) (by omega)
    have e4 := hm (n := c.val.toNat % 64 + 128) (by omega)
    rw [lead_four found (by omega) (by omega),
      step_more (by rw [e1, e2]; split_ifs <;> omega) (by rw [e1, e2]; split_ifs <;> omega),
      step_more (by omega) (by omega), step_last (by omega) (by omega), e1, e2, e3, e4]
    exact congrArg (idle <| .char · :: found) ((congrArg Char.ofNat (by omega)).trans hc)

theorem foldl_encode (found : List Piece) (cs : List Char) :
    (cs.flatMap String.utf8EncodeChar).foldl step (idle found) =
      idle ((cs.map .char).reverse ++ found) := by
  induction cs generalizing found with
  | nil => rfl
  | cons c cs ih =>
    rw [List.flatMap_cons, List.foldl_append, foldl_encodeChar, ih]
    simp

end State

theorem pieces_encode (s : String) : pieces (encode s) = s.toList.map .char := by
  have h := State.foldl_encode [] s.toList
  rw [pieces, encode, show State.start = State.idle [] from rfl, h]
  simp [State.finish, State.idle]

/-! ### Texts and the sequences that are written for them -/

@[simp]
theorem encode_empty : encode "" = [] := rfl

@[simp]
theorem encode_append (s t : String) : encode (s ++ t) = encode s ++ encode t := by
  simp [encode]

theorem encode_ofList (cs : List Char) :
    encode (String.ofList cs) = cs.flatMap String.utf8EncodeChar := by
  simp [encode]

theorem mapM_char? {ps : List Piece} {cs : List Char} (h : ps.mapM Piece.char? = some cs) :
    ps = cs.map .char := by
  induction ps generalizing cs with
  | nil =>
    simp only [List.mapM_nil, Option.pure_def, Option.some.injEq] at h
    subst h
    rfl
  | cons p ps ih =>
    cases p with
    | char c =>
      simp only [List.mapM_cons, Piece.char?, Option.pure_def, Option.bind_eq_bind,
        Option.bind_some, Option.bind_eq_some_iff, Option.some.injEq] at h
      obtain ⟨ds, hds, rfl⟩ := h
      rw [ih hds]
      rfl
    | flaw bs => simp [List.mapM_cons, Piece.char?] at h
    | cut bs => simp [List.mapM_cons, Piece.char?] at h

theorem mapM_char?_map (cs : List Char) : (cs.map Piece.char).mapM Piece.char? = some cs := by
  induction cs with
  | nil => rfl
  | cons c cs ih => simp [List.mapM_cons, Piece.char?, ih]

theorem flatMap_bytes_map (cs : List Char) :
    (cs.map Piece.char).flatMap Piece.bytes = cs.flatMap String.utf8EncodeChar := by
  induction cs with
  | nil => rfl
  | cons c cs ih => simp [Piece.bytes, ih]

@[simp]
theorem decode?_encode (s : String) : decode? (encode s) = some s := by
  rw [decode?, pieces_encode, mapM_char?_map]
  simp

/-- **A sequence is read as a text iff it is what is written for the text.** -/
theorem decode?_eq_some_iff {bs : Bytes} {s : String} : decode? bs = some s ↔ encode s = bs := by
  constructor
  · intro h
    obtain ⟨cs, hcs, rfl⟩ := Option.map_eq_some_iff.1 h
    rw [encode_ofList, ← flatMap_bytes_map, ← mapM_char? hcs, flatMap_bytes_pieces]
  · rintro rfl
    exact decode?_encode s

theorem encode_injective {s t : String} (h : encode s = encode t) : s = t := by
  have hs := decode?_encode s
  rw [h, decode?_encode, Option.some.injEq] at hs
  exact hs.symm

@[simp]
theorem lossy_encode (s : String) : lossy (encode s) = s := by
  rw [lossy, pieces_encode, List.map_map]
  have : Piece.shown ∘ Piece.char = id := rfl
  simp [this]

theorem firstFlawFrom_map_char (index : Nat) (cs : List Char) :
    firstFlawFrom index (cs.map .char) = none := by
  induction cs generalizing index with
  | nil => rfl
  | cons c cs ih => exact ih _

theorem eq_map_char_of_firstFlawFrom {index : Nat} {ps : List Piece}
    (h : firstFlawFrom index ps = none) : ∃ cs : List Char, ps = cs.map .char := by
  induction ps generalizing index with
  | nil => exact ⟨[], rfl⟩
  | cons p ps ih =>
    cases p with
    | char c =>
      obtain ⟨cs, rfl⟩ := ih h
      exact ⟨c :: cs, rfl⟩
    | flaw bs => cases h
    | cut bs => cases h

/-- **Strict decoding finds no flaw iff the sequence is what is written for some text.** -/
theorem firstFlaw?_eq_none_iff {bs : Bytes} : firstFlaw? bs = none ↔ ∃ s, encode s = bs := by
  constructor
  · intro h
    obtain ⟨cs, hcs⟩ := eq_map_char_of_firstFlawFrom h
    refine ⟨String.ofList cs, ?_⟩
    rw [encode_ofList, ← flatMap_bytes_map, ← hcs, flatMap_bytes_pieces]
  · rintro ⟨s, rfl⟩
    rw [firstFlaw?, pieces_encode]
    exact firstFlawFrom_map_char _ _

/-! ### Octets below `0x80` -/

theorem encodeChar_of_mem {c : Char} {b : UInt8} (hb : b.toNat < 0x80)
    (h : b ∈ String.utf8EncodeChar c) : String.utf8EncodeChar c = [b] ∧ c = Char.ofNat b.toNat := by
  have hv := toNat_lt c
  have hc := Char.ofNat_toNat c
  simp only [Char.toNat] at hv hc
  simp only [String.utf8EncodeChar] at h ⊢
  split_ifs at h ⊢ with h1 h2 h3
  · rw [List.mem_singleton] at h
    subst h
    rw [UInt8.toNat_ofNat', Nat.mod_eq_of_lt (by omega), hc]
    exact ⟨rfl, rfl⟩
  all_goals
    simp only [List.mem_cons, List.not_mem_nil, or_false, ← UInt8.toNat_inj,
      UInt8.toNat_ofNat'] at h
    omega

/-- **A written text can be cut at an octet below `0x80`**, which is a character of its own. -/
theorem flatMap_encodeChar_eq_append_cons {cs : List Char} {xs ys : Bytes} {b : UInt8}
    (hb : b.toNat < 0x80) (h : cs.flatMap String.utf8EncodeChar = xs ++ b :: ys) :
    ∃ before after, cs = before ++ Char.ofNat b.toNat :: after ∧
      before.flatMap String.utf8EncodeChar = xs ∧ after.flatMap String.utf8EncodeChar = ys := by
  induction cs generalizing xs with
  | nil => simp at h
  | cons c cs ih =>
    rw [List.flatMap_cons, List.append_eq_append_iff] at h
    obtain ⟨zs, rfl, hzs⟩ | ⟨zs, hc, hzs⟩ := h
    · obtain ⟨before, after, rfl, hx, hy⟩ := ih hzs
      exact ⟨c :: before, after, rfl, by rw [List.flatMap_cons, hx], hy⟩
    · cases zs with
      -- the octet is the first one after the character `c`
      | nil =>
        obtain ⟨before, after, rfl, hx, hy⟩ := @ih [] (by simpa using hzs.symm)
        exact ⟨c :: before, after, rfl, by rw [List.flatMap_cons, hx, hc, List.append_nil,
          List.append_nil], hy⟩
      -- the octet is one of those of `c`, so it is the only one
      | cons z zs =>
        obtain ⟨rfl, rfl⟩ : b = z ∧ ys = zs ++ cs.flatMap String.utf8EncodeChar := by
          simpa using hzs
        obtain ⟨hs, rfl⟩ := encodeChar_of_mem hb (c := c) (by rw [hc]; simp)
        rw [hs] at hc
        have hn : xs = [] ∧ zs = [] := by
          have := congrArg List.length hc
          simp only [List.length_append, List.length_cons, List.length_nil] at this
          exact ⟨List.length_eq_zero_iff.1 (by omega), List.length_eq_zero_iff.1 (by omega)⟩
        obtain ⟨rfl, rfl⟩ := hn
        exact ⟨[], cs, rfl, rfl, rfl⟩

theorem encode_eq_append_cons {s : String} {xs ys : Bytes} {b : UInt8} (hb : b.toNat < 0x80)
    (h : encode s = xs ++ b :: ys) :
    ∃ before after : String, s = before ++ String.singleton (Char.ofNat b.toNat) ++ after ∧
      encode before = xs ∧ encode after = ys := by
  obtain ⟨before, after, hs, hx, hy⟩ := flatMap_encodeChar_eq_append_cons hb h
  refine ⟨String.ofList before, String.ofList after, ?_, by rw [encode_ofList, hx],
    by rw [encode_ofList, hy]⟩
  rw [← String.toList_inj, hs]
  simp

/-! ### Well-formed octets -/

/-- Octets that spell a text. -/
def WellFormed (bs : Bytes) : Prop := ∃ s, encode s = bs

theorem wellFormed_encode (s : String) : WellFormed (encode s) := ⟨s, rfl⟩

theorem wellFormed_nil : WellFormed [] := wellFormed_encode ""

theorem WellFormed.append {xs ys : Bytes} (hx : WellFormed xs) (hy : WellFormed ys) :
    WellFormed (xs ++ ys) := by
  obtain ⟨s, rfl⟩ := hx
  obtain ⟨t, rfl⟩ := hy
  exact ⟨s ++ t, encode_append s t⟩

/-- Replacing the flaws loses nothing where there are none. -/
theorem WellFormed.eq_of_lossy {xs ys : Bytes} (hx : WellFormed xs) (hy : WellFormed ys)
    (h : lossy xs = lossy ys) : xs = ys := by
  obtain ⟨s, rfl⟩ := hx
  obtain ⟨t, rfl⟩ := hy
  rw [lossy_encode, lossy_encode] at h
  rw [h]

theorem wellFormed_singleton {b : UInt8} (hb : b.toNat < 0x80) : WellFormed [b] := by
  have hp : pieces [b] = [.char (Char.ofNat b.toNat)] :=
    congrArg State.finish (State.lead_one [] (Nat.le_of_lt_succ hb))
  exact ⟨String.ofList [Char.ofNat b.toNat], decode?_eq_some_iff.1 (by rw [decode?, hp]; rfl)⟩

theorem wellFormed_append_cons_iff {xs ys : Bytes} {b : UInt8} (hb : b.toNat < 0x80) :
    WellFormed (xs ++ b :: ys) ↔ WellFormed xs ∧ WellFormed ys := by
  constructor
  · rintro ⟨s, hs⟩
    obtain ⟨before, after, -, hx, hy⟩ := encode_eq_append_cons hb hs
    exact ⟨⟨before, hx⟩, ⟨after, hy⟩⟩
  · rintro ⟨hx, hy⟩
    exact hx.append ((wellFormed_singleton hb).append hy)

end Utf8

end ToolRelay
