import Mathlib.Tactic.SplitIfs
import ToolRelay.Json.Printer
import ToolRelay.Json.Value

/-!
# What a reader takes from a text

`Reads r s t a` says that `r`, with the characters `s` ahead, gives `a` and leaves `t`, wherever in
the text it starts.  Readers are put together by `Reads.bind`, so the rest of the theory never
opens a reader that has a lemma here.

* `Reads.text` : a quoted text reads back as the text;
* `Reads.number` : the decimal digits of a number read back as the number, unless something follows
  that would make it another one (`Follows`).
-/

namespace ToolRelay

namespace Json

namespace Reader

/-- With `s` ahead, `r` gives `a` and leaves `t`. -/
def Reads {α : Type} (r : Reader α) (s t : List Char) (a : α) : Prop :=
  ∀ i, ∃ j, r ⟨i, s⟩ = .ok a ⟨j, t⟩

variable {α β : Type} {s t u : List Char}

theorem takeWhile_eq_nil {p : Char → Bool} (h : ∀ c ∈ s.head?, p c = false) :
    s.takeWhile p = [] := by
  cases s with
  | nil => rfl
  | cons c s => simp [h c rfl]

/-- A test tells characters apart. -/
theorem ne_of_test {p : Char → Bool} {c x : Char} (hc : p c = true) (hx : p x = false) :
    c ≠ x := by
  rintro rfl
  rw [hc] at hx
  contradiction

theorem some_ne_of_test {p : Char → Bool} {c x : Char} (hc : p c = true) (hx : p x = false) :
    some c ≠ some x := fun he => ne_of_test hc hx (Option.some.inj he)

/-- Nothing that follows belongs to a number that ends here. -/
def Follows (t : List Char) : Prop :=
  ∀ c ∈ t.head?, isDigit c = false ∧ c ≠ '.' ∧ c ≠ 'e' ∧ c ≠ 'E'

theorem isDigit_eq (c : Char) : isDigit c = c.isDigit := by
  rw [Bool.eq_iff_iff, Char.isDigit_iff_toNat]
  simp [isDigit]

theorem le_ofDigitChars (n : Nat) (ds : List Char) : n ≤ Nat.ofDigitChars 10 ds n := by
  rw [Nat.ofDigitChars_eq_ofDigitChars_zero]
  have := Nat.le_mul_of_pos_left n (Nat.pow_pos (n := ds.length) (show 0 < 10 by decide))
  omega

theorem absorb_of_le {n : Nat} {ds : List Char} (h : Nat.ofDigitChars 10 ds n ≤ maxInt) :
    absorb n ds = (Nat.ofDigitChars 10 ds n, []) := by
  induction ds generalizing n with
  | nil => rfl
  | cons d ds ih =>
    have hv : 10 * n + (d.toNat - '0'.toNat) = n * 10 + digitValue d := by
      rw [digitValue, Nat.mul_comm]; rfl
    rw [Nat.ofDigitChars_cons, hv] at h ⊢
    rw [absorb, if_pos (Nat.le_trans (le_ofDigitChars _ ds) h), ih h]

theorem toDigits_eq_cons {n : Nat} (h : 0 < n) :
    ∃ c cs, Nat.toDigits 10 n = c :: cs ∧ c ≠ '0' := by
  induction n using Nat.strongRecOn with
  | ind n ih =>
    rw [Nat.toDigits_eq_if (by decide)]
    split
    · rename_i hn
      refine ⟨_, [], rfl, ?_⟩
      have hz : ∀ m < 10, 0 < m → m.digitChar ≠ '0' := by decide
      exact hz n hn h
    · obtain ⟨c, cs, hc, h0⟩ := ih (n / 10) (by omega) (by omega)
      exact ⟨c, _, by rw [hc]; rfl, h0⟩

namespace Reads

/-! ### Putting readers together -/

theorem pure (a : α) : Reads (Pure.pure a) s s a := fun i => ⟨i, rfl⟩

theorem bind {r : Reader α} {f : α → Reader β} {a : α} {b : β} (h : Reads r s t a)
    (h' : Reads (f a) t u b) : Reads (r >>= f) s u b := by
  intro i
  obtain ⟨j, hj⟩ := h i
  obtain ⟨k, hk⟩ := h' j
  refine ⟨k, ?_⟩
  change EStateM.bind r f ⟨i, s⟩ = _
  rw [EStateM.bind, hj]
  exact hk

theorem placed {r : Reader α} {a : α} (h : Reads r s t a) : Reads (placed r) s t a := by
  intro i
  obtain ⟨j, hj⟩ := h i
  exact ⟨j, by rw [Reader.placed, hj]⟩

theorem closedBy {inner : Reader α} {closing : Reader Unit} {a : α} (h : Reads inner s t a)
    (h' : Reads closing t u ()) : Reads (closedBy inner closing) s u a := by
  intro i
  obtain ⟨j, hj⟩ := h i
  obtain ⟨k, hk⟩ := h' j
  exact ⟨k, by rw [Reader.closedBy, hj]; simp only; rw [hk]⟩

/-! ### One character -/

theorem peek : Reads peek s s s.head? := fun i => ⟨i, rfl⟩

theorem advance {c : Char} : Reads advance (c :: s) s () := fun _ => ⟨_, rfl⟩

theorem next {c : Char} : Reads next (c :: s) s (some c) := fun _ => ⟨_, rfl⟩

theorem room : Reads room s s (s.length + 1) := fun i => ⟨i, rfl⟩

theorem skipBlanks (hs : ∀ c ∈ s, isBlank c = true) (ht : ∀ c ∈ t.head?, isBlank c = false) :
    Reads skipBlanks (s ++ t) t () := by
  intro i
  have hw : (s ++ t).takeWhile isBlank = s := by
    rw [List.takeWhile_append_of_pos hs, takeWhile_eq_nil ht, List.append_nil]
  exact ⟨i + s.length, by simp [Reader.skipBlanks, hw]⟩

theorem peekFull (hs : ∀ c ∈ s, isBlank c = true) (ht : ∀ c ∈ t.head?, isBlank c = false) :
    Reads peekFull (s ++ t) t t.head? := (skipBlanks hs ht).bind peek

theorem peekFull_cons {c : Char} (h : isBlank c = false) :
    Reads Reader.peekFull (c :: s) (c :: s) (some c) :=
  peekFull (s := []) (by simp) fun d hd => by cases hd; exact h

/-- A reader that looks at the next character first goes on according to it. -/
theorem peekFull_bind {c : Char} {f : Option Char → Reader α} {a : α} (h : isBlank c = false)
    (h' : Reads (f (some c)) (c :: s) t a) : Reads (Reader.peekFull >>= f) (c :: s) t a :=
  (peekFull_cons h).bind h'

theorem advance_bind {c : Char} {f : Unit → Reader α} {a : α} (h : Reads (f ()) s t a) :
    Reads (Reader.advance >>= f) (c :: s) t a := advance.bind h

theorem word (cs : List Char) : Reads (word cs) (cs ++ s) s () := by
  induction cs with
  | nil => exact pure ()
  | cons c cs ih =>
    refine next.bind ?_
    simpa using ih

/-! ### Texts -/

theorem hexValue?_hexDigit {n : Nat} (h : n < 16) : hexValue? (hexDigit n) = some n := by
  have h' : ∀ n < 16, hexValue? (hexDigit n) = some n := by decide
  exact h' n h

theorem codeUnit?_hexDigit {n : Nat} (h : n < 0x20) :
    codeUnit? '0' '0' (hexDigit (n / 16)) (hexDigit (n % 16)) = some n := by
  have h0 : hexValue? '0' = some 0 := rfl
  rw [codeUnit?, h0, hexValue?_hexDigit (n := n / 16) (by omega),
    hexValue?_hexDigit (n := n % 16) (by omega)]
  simp only [Option.bind_eq_bind, Option.bind_some, Option.pure_def, Option.some.injEq]
  omega

/-- A backslash and a letter that means `x`. -/
theorem textBody_simpleEscape {e x : Char} (h : simpleEscape? e = some x) (i : Nat)
    (done s : List Char) : textBody i done ('\\' :: e :: s) = textBody (i + 2) (x :: done) s := by
  rw [textBody.eq_def]
  simp [h]

theorem textBody_escape (i : Nat) (done : List Char) (c : Char) (s : List Char) :
    ∃ j, textBody i done (escape c ++ s) = textBody j (c :: done) s := by
  unfold escape
  split_ifs with h1 h2 h3 h4 h5 h6 h7 h8
  · exact ⟨i + 2, by subst h1; exact textBody_simpleEscape rfl ..⟩
  · exact ⟨i + 2, by subst h2; exact textBody_simpleEscape rfl ..⟩
  · exact ⟨i + 2, by subst h3; exact textBody_simpleEscape rfl ..⟩
  · exact ⟨i + 2, by subst h4; exact textBody_simpleEscape rfl ..⟩
  · exact ⟨i + 2, by subst h5; exact textBody_simpleEscape rfl ..⟩
  · exact ⟨i + 2, by subst h6; exact textBody_simpleEscape rfl ..⟩
  · exact ⟨i + 2, by subst h7; exact textBody_simpleEscape rfl ..⟩
  · -- the other control characters are written as a code unit, which is half of no pair
    have hl : isLow c.toNat = false := by simp [isLow]; omega
    have hh : isHigh c.toNat = false := by simp [isHigh]; omega
    refine ⟨i + 6, ?_⟩
    simp only [List.cons_append, List.nil_append]
    rw [textBody.eq_def]
    simp [simpleEscape?, codeUnit?_hexDigit h8, hl, hh]
  · refine ⟨i + c.utf8Size, ?_⟩
    simp only [List.cons_append, List.nil_append]
    rw [textBody.eq_def]
    simp [h1, h2, h8]

theorem textBody_escapes (i : Nat) (done cs s : List Char) :
    ∃ j, textBody i done (cs.flatMap escape ++ '"' :: s) =
      .ok (String.ofList (done.reverse ++ cs)) ⟨j, s⟩ := by
  induction cs generalizing i done with
  | nil => exact ⟨i + 1, by rw [List.flatMap_nil, List.nil_append, textBody.eq_def]; simp⟩
  | cons c cs ih =>
    obtain ⟨j, hj⟩ := textBody_escape i done c (cs.flatMap escape ++ '"' :: s)
    obtain ⟨k, hk⟩ := ih j (c :: done)
    refine ⟨k, ?_⟩
    rw [List.flatMap_cons, List.append_assoc, hj, hk]
    simp

theorem text (x : String) : Reads text (x.toList.flatMap escape ++ '"' :: s) s x := by
  intro i
  obtain ⟨j, hj⟩ := textBody_escapes i [] x.toList s
  exact ⟨j, by rw [Reader.text, hj]; simp⟩

theorem quoteChars_append (x : String) (s : List Char) :
    quoteChars x ++ s = '"' :: (x.toList.flatMap escape ++ '"' :: s) := by
  simp [quoteChars]

/-! ### Integers -/

theorem digits {ds : List Char} (hd : ∀ c ∈ ds, isDigit c = true)
    (ht : ∀ c ∈ t.head?, isDigit c = false) : Reads digits (ds ++ t) t ds := by
  intro i
  have hs : (ds ++ t).takeWhile isDigit = ds := by
    rw [List.takeWhile_append_of_pos hd, takeWhile_eq_nil ht, List.append_nil]
  exact ⟨i + ds.length, by simp [Reader.digits, hs]⟩

/-- A number without a fraction and an exponent is an integer, if there is such an integer. -/
theorem afterInteger {negative : Bool} {n : Nat}
    (hn : negative = true → 0 < n ∧ n ≤ 0x8000000000000000) (ht : Follows t) :
    Reads (afterInteger negative n 0) t t (.int (if negative then -n else n)) := by
  refine peek.bind ?_
  split
  · rename_i h; exact absurd rfl (ht _ h).2.1
  · rename_i h; exact absurd rfl (ht _ h).2.2.1
  · rename_i h; exact absurd rfl (ht _ h).2.2.2
  · cases negative with
    | false => exact pure _
    | true =>
      simp only [ne_eq, not_true_eq_false, ↓reduceIte, hn rfl, and_self]
      exact pure _

theorem number (negative : Bool) {n : Nat} (hn : n ≤ maxInt)
    (hneg : negative = true → 0 < n ∧ n ≤ 0x8000000000000000) (ht : Follows t) :
    Reads (number negative) (Nat.toDigits 10 n ++ t) t (.int (if negative then -n else n)) := by
  have hd : ∀ c ∈ Nat.toDigits 10 n, isDigit c = true := fun c hc => by
    rw [isDigit_eq]; exact Nat.isDigit_of_mem_toDigits (by decide) (by decide) hc
  have ht' : ∀ c ∈ t.head?, isDigit c = false := fun c hc => (ht c hc).1
  obtain rfl | hpos := Nat.eq_zero_or_pos n
  · rw [Nat.toDigits_zero]
    refine next.bind (peek.bind ?_)
    split
    · rename_i c hc
      rw [if_neg (by simp [ht' c hc])]
      exact afterInteger hneg ht
    · exact afterInteger hneg ht
  · obtain ⟨c, cs, hc, h0⟩ := toDigits_eq_cons hpos
    have hv : Nat.ofDigitChars 10 cs (digitValue c) = n := by
      have := Nat.ofDigitChars_ten_toDigits (n := n)
      simpa [hc, Nat.ofDigitChars_cons, digitValue] using this
    rw [hc] at hd
    rw [hc]
    refine next.bind ?_
    split
    · contradiction
    -- no number but 0 begins with a zero
    · rename_i h; exact absurd (Option.some.inj h) h0
    · rename_i d _ h
      obtain rfl := Option.some.inj h
      rw [if_pos (hd c (List.mem_cons_self ..))]
      refine (digits (fun d hd' => hd d (List.mem_cons_of_mem _ hd')) ht').bind ?_
      rw [absorb_of_le (hv ▸ hn), hv]
      exact afterInteger hneg ht

end Reads

end Reader

end Json

end ToolRelay
