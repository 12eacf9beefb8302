import ToolRelay.Proofs.Json.RoundTrip

/-!
# The grammar of JSON texts

`Grammar.Value` is the set of texts that are JSON values, by the grammar of the format and without
regard to any reader; blanks may stand around every item, name and value.  Every value is
written as such a text (`Grammar.value_compactChars`), floating-point numbers included, and without
a control character (`Grammar.noControl_compactChars`), so a value fits on one line.
-/

namespace ToolRelay

namespace Json

namespace Grammar

/-- One or more decimal digits. -/
def Digits (s : List Char) : Prop := s ≠ [] ∧ ∀ c ∈ s, c.isDigit = true

/-- The digits before the point: no zero stands before another digit. -/
inductive Whole : List Char → Prop
  | zero : Whole ['0']
  | digits {c : Char} {cs : List Char} (h : Digits (c :: cs)) (h0 : c ≠ '0') : Whole (c :: cs)

/-- The part of a number from its point on, if it has one. -/
inductive Fraction : List Char → Prop
  | none : Fraction []
  | some {ds : List Char} (h : Digits ds) : Fraction ('.' :: ds)

/-- The part of a number from its `e` on, if it has one. -/
inductive Exponent : List Char → Prop
  | none : Exponent []
  | some {e : Char} {sign ds : List Char} (he : e = 'e' ∨ e = 'E')
      (hs : sign = [] ∨ sign = ['+'] ∨ sign = ['-']) (h : Digits ds) : Exponent (e :: (sign ++ ds))

/-- A number. -/
inductive Number : List Char → Prop
  | mk {sign whole fraction exponent : List Char} (hs : sign = [] ∨ sign = ['-'])
      (hw : Whole whole) (hf : Fraction fraction) (he : Exponent exponent) :
      Number (sign ++ whole ++ fraction ++ exponent)

/-- A character inside quotes, as it is written. -/
inductive Piece : List Char → Prop
  | plain {c : Char} (hc : 0x20 ≤ c.toNat) (hq : c ≠ '"') (hb : c ≠ '\\') : Piece [c]
  | letter {c : Char} (h : c ∈ ['"', '\\', '/', 'b', 'f', 'n', 'r', 't']) : Piece ['\\', c]
  | unit {a b c d : Char} (h : ∀ x ∈ [a, b, c, d], (Reader.hexValue? x).isSome) :
      Piece ['\\', 'u', a, b, c, d]

/-- A text in quotes. -/
inductive Quoted : List Char → Prop
  | mk {pieces : List (List Char)} (h : ∀ p ∈ pieces, Piece p) :
      Quoted ('"' :: (pieces.flatten ++ ['"']))

/-- Any number of blanks. -/
def Blanks (s : List Char) : Prop := ∀ c ∈ s, Reader.isBlank c = true

mutual

/-- A value. -/
inductive Value : List Char → Prop
  | null : Value ['n', 'u', 'l', 'l']
  | true : Value ['t', 'r', 'u', 'e']
  | false : Value ['f', 'a', 'l', 's', 'e']
  | number {s : List Char} (h : Number s) : Value s
  | text {s : List Char} (h : Quoted s) : Value s
  | noItems {s : List Char} (h : Blanks s) : Value ('[' :: (s ++ [']']))
  | array {s : List Char} (h : Items s) : Value ('[' :: (s ++ [']']))
  | noMembers {s : List Char} (h : Blanks s) : Value ('{' :: (s ++ ['}']))
  | object {s : List Char} (h : Members s) : Value ('{' :: (s ++ ['}']))

/-- A value with blanks around it, as a whole text may have them. -/
inductive Padded : List Char → Prop
  | mk {u s v : List Char} (hu : Blanks u) (h : Value s) (hv : Blanks v) : Padded (u ++ s ++ v)

/-- One or more values with commas between them. -/
inductive Items : List Char → Prop
  | one {s : List Char} (h : Padded s) : Items s
  | more {s t : List Char} (h : Padded s) (rest : Items t) : Items (s ++ ',' :: t)

/-- A named value. -/
inductive Member : List Char → Prop
  | mk {u k v s : List Char} (hu : Blanks u) (hk : Quoted k) (hv : Blanks v) (h : Padded s) :
      Member (u ++ k ++ v ++ ':' :: s)

/-- One or more named values with commas between them. -/
inductive Members : List Char → Prop
  | one {s : List Char} (h : Member s) : Members s
  | more {s t : List Char} (h : Member s) (rest : Members t) : Members (s ++ ',' :: t)

end

theorem blanks_nil : Blanks [] := fun _ h => absurd h List.not_mem_nil

theorem Value.padded {s : List Char} (h : Value s) : Padded s := by
  have := Padded.mk blanks_nil h blanks_nil
  rwa [List.nil_append, List.append_nil] at this

theorem Quoted.member {k s : List Char} (hk : Quoted k) (h : Value s) :
    Member (k ++ ':' :: s) := by
  have := Member.mk blanks_nil hk blanks_nil h.padded
  rwa [List.nil_append, List.append_nil] at this

/-! ### Texts -/

theorem piece_escape (c : Char) : Piece (escape c) := by
  unfold escape
  split_ifs with h1 h2 h3 h4 h5 h6 h7 h8
  · exact .letter (by decide)
  · exact .letter (by decide)
  · exact .letter (by decide)
  · exact .letter (by decide)
  · exact .letter (by decide)
  · exact .letter (by decide)
  · exact .letter (by decide)
  · refine .unit fun x hx => ?_
    have hv : ∀ n < 16, (Reader.hexValue? (hexDigit n)).isSome := by decide
    simp only [List.mem_cons, List.not_mem_nil, or_false] at hx
    obtain rfl | rfl | rfl | rfl := hx
    · rfl
    · rfl
    · exact hv _ (by omega)
    · exact hv _ (by omega)
  · exact .plain (by omega) h1 h2

theorem quoted_quoteChars (x : String) : Quoted (quoteChars x) := by
  have h : ∀ p ∈ x.toList.map escape, Piece p := fun p hp => by
    obtain ⟨c, -, rfl⟩ := List.mem_map.1 hp
    exact piece_escape c
  have := Quoted.mk h
  rwa [← List.flatMap_def] at this

/-! ### Numbers -/

theorem digits_zero : Digits ['0'] := ⟨by simp, List.forall_mem_singleton.2 rfl⟩

theorem digits_toDigits (n : Nat) : Digits (Nat.toDigits 10 n) :=
  ⟨Nat.toDigits_ne_nil, fun _ h => Nat.isDigit_of_mem_toDigits (by decide) (by decide) h⟩

theorem Digits.append {s t : List Char} (hs : Digits s) (ht : ∀ c ∈ t, c.isDigit = true) :
    Digits (s ++ t) :=
  ⟨by simp [hs.1], fun c hc => (List.mem_append.1 hc).elim (hs.2 c) (ht c)⟩

theorem Digits.append_left {s t : List Char} (ht : Digits t) (hs : ∀ c ∈ s, c.isDigit = true) :
    Digits (s ++ t) :=
  ⟨by simp [ht.1], fun c hc => (List.mem_append.1 hc).elim (hs c) (ht.2 c)⟩

theorem isDigit_of_mem_zeros {n : Nat} {c : Char} (h : c ∈ List.replicate n '0') :
    c.isDigit = true := by
  rw [(List.mem_replicate.1 h).2]
  rfl

theorem whole_toDigits (n : Nat) : Whole (Nat.toDigits 10 n) := by
  obtain rfl | hn := Nat.eq_zero_or_pos n
  · exact .zero
  · obtain ⟨c, cs, hc, h0⟩ := Reader.toDigits_eq_cons hn
    exact hc ▸ .digits (hc ▸ digits_toDigits n) h0

theorem number_toString_int (n : Int) : Number (toString n).toList := by
  rw [toList_toString_int]
  split
  · have := Number.mk (.inl rfl) (whole_toDigits n.natAbs) .none .none
    simpa using this
  · have := Number.mk (.inr rfl) (whole_toDigits n.natAbs) .none .none
    simpa using this

/-- A decimal number that is zero only when nothing is known of its size. -/
def Proper (d : Shortest.Decimal) : Prop := d.significand ≠ 0 ∨ d.exponent = 0

theorem proper_pick? {w : Shortest.Window} {k : Int} {d : Shortest.Decimal}
    (h : Shortest.pick? w k = some d) : Proper d := by
  unfold Shortest.pick? at h
  dsimp only at h
  have hb : (Shortest.neighbours w k).2 ≠ 0 := Nat.succ_ne_zero _
  split_ifs at h with ha
  all_goals obtain rfl := Option.some.inj h
  · exact .inl ha.2
  · exact .inl hb
  · exact .inl ha.2
  · exact .inl hb

theorem proper_search (w : Shortest.Window) (k : Int) (n : Nat) :
    Proper (Shortest.search w k n) := by
  induction n generalizing k with
  | zero => exact .inr rfl
  | succ n ih =>
    rw [Shortest.search]
    cases h : Shortest.pick? w k with
    | none => exact ih _
    | some d => exact proper_pick? h

theorem proper_dropZeros {d : Shortest.Decimal} (h : Proper d) (n : Nat) :
    Proper (Shortest.dropZeros d n) := by
  induction n generalizing d with
  | zero => exact h
  | succ n ih =>
    rw [Shortest.dropZeros]
    split
    · rename_i hd
      exact ih (.inl (by simp only; omega))
    · exact h

theorem exponent_layOut (point : Int) :
    Exponent ((if point ≥ 1 then "e+" else "e") ++ toString (point - 1)).toList := by
  rw [String.toList_append, toList_toString_int]
  split
  · rw [if_pos (by omega)]
    exact @Exponent.some 'e' ['+'] _ (.inl rfl) (.inr (.inl rfl)) (digits_toDigits _)
  · rw [if_neg (by omega)]
    exact @Exponent.some 'e' ['-'] _ (.inl rfl) (.inr (.inr rfl)) (digits_toDigits _)

/-- A point between two digits. -/
theorem whole_fraction_of_digits {c : Char} {cs : List Char} (h : Digits (c :: cs)) (h0 : c ≠ '0')
    {k : Nat} (hk : k < cs.length) : Whole (c :: cs.take k) ∧ Fraction ('.' :: cs.drop k) := by
  refine ⟨.digits ⟨by simp, fun x hx => h.2 x ?_⟩ h0, .some ⟨?_, fun x hx => h.2 x ?_⟩⟩
  · exact List.mem_of_mem_take (i := k + 1) hx
  · exact fun he => absurd (List.drop_eq_nil_iff.1 he) (by omega)
  · exact List.mem_cons_of_mem _ (List.mem_of_mem_drop hx)

/-- The layout of a decimal number begins with digits, which are followed by a fraction and an
exponent, if by anything. -/
theorem layOut_eq_append {d : Shortest.Decimal} (h : Proper d) :
    ∃ w f e, (Shortest.layOut d).toList = w ++ f ++ e ∧ Whole w ∧ Fraction f ∧ Exponent e := by
  have hpoint : Fraction ['.', '0'] := .some digits_zero
  by_cases hz : d.significand = 0
  · obtain rfl : d = ⟨0, 0⟩ := by
      obtain ⟨significand, exponent⟩ := d
      obtain rfl : significand = 0 := hz
      obtain rfl : exponent = 0 := h.resolve_left fun hne => hne rfl
      rfl
    exact ⟨['0'], ['.', '0'], [], by decide, .zero, hpoint, .none⟩
  · obtain ⟨c, cs, hc, h0⟩ := Reader.toDigits_eq_cons (Nat.pos_of_ne_zero hz)
    have hds : Digits (c :: cs) := hc ▸ digits_toDigits d.significand
    have htext : (toString d.significand).toList = c :: cs := Nat.toList_repr.trans hc
    have hlen : ((toString d.significand).length : Int) = cs.length + 1 := by
      rw [← String.length_toList, htext]
      rfl
    unfold Shortest.layOut
    dsimp only
    rw [hlen]
    generalize hp : (cs.length + 1 + d.exponent : Int) = point
    -- the layouts, by where the point falls
    split
    · refine ⟨c :: cs ++ List.replicate d.exponent.toNat '0', ['.', '0'], [], ?_,
        .digits (hds.append fun _ => isDigit_of_mem_zeros) h0, hpoint, .none⟩
      simp only [String.toList_append, htext, String.toList_ofList, List.append_nil]
      rfl
    split
    · obtain ⟨k, hk⟩ : ∃ k, point.toNat = k + 1 := ⟨point.toNat - 1, by omega⟩
      obtain ⟨hw, hf⟩ := whole_fraction_of_digits hds h0 (k := k) (by omega)
      refine ⟨c :: cs.take k, '.' :: cs.drop k, [], ?_, hw, hf, .none⟩
      simp only [String.toList_append, htext, String.toList_ofList, hk, List.append_nil]
      simp
    split
    · refine ⟨['0'], '.' :: (List.replicate (-point).toNat '0' ++ c :: cs), [], ?_, .zero,
        .some (hds.append_left fun _ => isDigit_of_mem_zeros), .none⟩
      simp only [String.toList_append, htext, String.toList_ofList, List.append_nil]
      rfl
    split
    · refine ⟨c :: cs, [], _, ?_, .digits hds h0, .none, exponent_layOut point⟩
      rw [String.toList_append, htext, List.append_nil]
    · obtain ⟨hw, hf⟩ := whole_fraction_of_digits hds h0 (k := 0) (by omega)
      refine ⟨[c], '.' :: cs, _, ?_, hw, hf, exponent_layOut point⟩
      simp only [String.toList_append, htext, String.toList_ofList]
      rfl

theorem number_render (x : Binary64) : Number (Shortest.render x).toList := by
  obtain ⟨w, f, e, hs, hw, hf, he⟩ : ∃ w f e,
      (if x.isZero then "0.0" else Shortest.layOut (Shortest.digits x)).toList = w ++ f ++ e ∧
        Whole w ∧ Fraction f ∧ Exponent e := by
    split
    · exact ⟨['0'], ['.', '0'], [], rfl, .zero, .some digits_zero, .none⟩
    · exact layOut_eq_append (proper_dropZeros (proper_search _ _ _) _)
  rw [Shortest.render, String.toList_append, hs]
  cases x.negative with
  | true => exact @Number.mk ['-'] _ _ _ (.inr rfl) hw hf he
  | false => exact @Number.mk [] _ _ _ (.inl rfl) hw hf he

/-! ### Values -/

mutual

/-- **Every value is written as a JSON text.** -/
theorem value_compactChars : (j : Json) → Value (compactChars j)
  | .null => by rw [compactChars]; exact .null
  | .bool true => by rw [compactChars]; exact .true
  | .bool false => by rw [compactChars]; exact .false
  | .int n => by rw [compactChars]; exact .number (number_toString_int n)
  | .real x => by rw [compactChars]; exact .number (number_render x)
  | .text s => by rw [compactChars]; exact .text (quoted_quoteChars s)
  | .array [] => by rw [compactChars, compactItems]; exact .noItems blanks_nil
  | .array (j :: js) => by
    obtain ⟨s, hs, h⟩ := items_compactItems (j :: js) (List.cons_ne_nil _ _)
    rw [compactChars, hs]
    exact .array h
  | .object [] => by rw [compactChars, compactMembers]; exact .noMembers blanks_nil
  | .object (m :: ms) => by
    obtain ⟨s, hs, h⟩ := members_compactMembers (m :: ms) (List.cons_ne_nil _ _)
    rw [compactChars, hs]
    exact .object h

theorem items_compactItems : (js : List Json) → js ≠ [] →
    ∃ s, compactItems true js = s ++ [']'] ∧ Items s
  | [], h => absurd rfl h
  | [j], _ => ⟨compactChars j, by simp [compactItems], .one (value_compactChars j).padded⟩
  | j :: j' :: js, _ => by
    obtain ⟨s, hs, h⟩ := items_compactItems (j' :: js) (List.cons_ne_nil _ _)
    refine ⟨compactChars j ++ ',' :: s, ?_, .more (value_compactChars j).padded h⟩
    simp only [compactItems, ↓reduceIte, Bool.false_eq_true, List.nil_append, List.append_assoc,
      List.cons_append] at hs ⊢
    rw [hs]

theorem members_compactMembers : (ms : List (String × Json)) → ms ≠ [] →
    ∃ s, compactMembers true ms = s ++ ['}'] ∧ Members s
  | [], h => absurd rfl h
  | [(k, v)], _ => ⟨quoteChars k ++ ':' :: compactChars v, by simp [compactMembers],
    .one ((quoted_quoteChars k).member (value_compactChars v))⟩
  | (k, v) :: m :: ms, _ => by
    obtain ⟨s, hs, h⟩ := members_compactMembers (m :: ms) (List.cons_ne_nil _ _)
    refine ⟨quoteChars k ++ ':' :: compactChars v ++ ',' :: s, ?_,
      .more ((quoted_quoteChars k).member (value_compactChars v)) h⟩
    simp only [compactMembers, ↓reduceIte, Bool.false_eq_true, List.nil_append, List.append_assoc,
      List.cons_append] at hs ⊢
    rw [hs]

end

/-! ### One line -/

/-- There is no control character, so no line break. -/
def NoControl (s : List Char) : Prop := ∀ c ∈ s, 0x20 ≤ c.toNat

instance (s : List Char) : Decidable (NoControl s) := List.decidableBAll _ s

theorem noControl_append {s t : List Char} : NoControl (s ++ t) ↔ NoControl s ∧ NoControl t :=
  List.forall_mem_append

theorem noControl_cons {c : Char} {s : List Char} :
    NoControl (c :: s) ↔ 0x20 ≤ c.toNat ∧ NoControl s := List.forall_mem_cons

theorem Piece.noControl {s : List Char} (h : Piece s) : NoControl s := by
  have hhex : ∀ x, (Reader.hexValue? x).isSome → 0x20 ≤ x.toNat := fun x hx => by
    unfold Reader.hexValue? at hx
    dsimp only at hx
    split_ifs at hx
    all_goals first | omega | contradiction
  cases h with
  | plain hc => exact fun x hx => by rwa [List.mem_singleton.1 hx]
  | letter h =>
    have hl : ['"', '\\', '/', 'b', 'f', 'n', 'r', 't'].all
        fun c => decide (NoControl ['\\', c]) := by decide
    exact of_decide_eq_true (List.all_eq_true.1 hl _ h)
  | unit h =>
    exact noControl_append.2 ⟨(by decide : NoControl ['\\', 'u']), fun x hx => hhex x (h x hx)⟩

theorem Quoted.noControl {s : List Char} (h : Quoted s) : NoControl s := by
  obtain ⟨h⟩ := h
  refine noControl_cons.2 ⟨by decide, noControl_append.2 ⟨fun c hc => ?_, by decide⟩⟩
  obtain ⟨p, hp, hc⟩ := List.mem_flatten.1 hc
  exact (h p hp).noControl c hc

theorem Digits.noControl {s : List Char} (h : Digits s) : NoControl s := fun c hc => by
  have := (Char.isDigit_iff_toNat.1 (h.2 c hc)).1
  exact Nat.le_trans (by decide) this

theorem Number.noControl {s : List Char} (h : Number s) : NoControl s := by
  obtain ⟨hs, hw, hf, he⟩ := h
  simp only [noControl_append]
  refine ⟨⟨⟨?_, ?_⟩, ?_⟩, ?_⟩
  · rcases hs with rfl | rfl <;> decide
  · cases hw with
    | zero => decide
    | digits h _ => exact h.noControl
  · cases hf with
    | none => decide
    | some h => exact noControl_cons.2 ⟨by decide, h.noControl⟩
  · cases he with
    | none => decide
    | some he hs h =>
      refine noControl_cons.2 ⟨?_, noControl_append.2 ⟨?_, h.noControl⟩⟩
      · rcases he with rfl | rfl <;> decide
      · rcases hs with rfl | rfl | rfl <;> decide

mutual

/-- **A value is written on one line.** -/
theorem noControl_compactChars : (j : Json) → NoControl (compactChars j)
  | .null => by rw [compactChars]; decide
  | .bool true => by rw [compactChars]; decide
  | .bool false => by rw [compactChars]; decide
  | .int n => by rw [compactChars]; exact (number_toString_int n).noControl
  | .real x => by rw [compactChars]; exact (number_render x).noControl
  | .text s => by rw [compactChars]; exact (quoted_quoteChars s).noControl
  | .array js => by
    rw [compactChars]
    exact noControl_cons.2 ⟨by decide, noControl_compactItems true js⟩
  | .object ms => by
    rw [compactChars]
    exact noControl_cons.2 ⟨by decide, noControl_compactMembers true ms⟩

theorem noControl_compactItems (first : Bool) :
    (js : List Json) → NoControl (compactItems first js)
  | [] => by rw [compactItems]; decide
  | j :: js => by
    rw [compactItems, noControl_append, noControl_append]
    exact ⟨⟨by cases first <;> decide, noControl_compactChars j⟩, noControl_compactItems false js⟩

theorem noControl_compactMembers (first : Bool) :
    (ms : List (String × Json)) → NoControl (compactMembers first ms)
  | [] => by rw [compactMembers]; decide
  | (k, v) :: ms => by
    simp only [compactMembers, noControl_append, noControl_cons]
    exact ⟨⟨⟨by cases first <;> decide, (quoted_quoteChars k).noControl⟩, by decide,
      noControl_compactChars v⟩, noControl_compactMembers false ms⟩

end

end Grammar

end Json

end ToolRelay
