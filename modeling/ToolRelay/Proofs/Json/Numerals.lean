import ToolRelay.Proofs.Json.Gives
import ToolRelay.Proofs.Json.RoundTrip

/-!
# Number literals

The number literals of a JSON text can be told without reading it: a literal begins with a digit or
a minus sign outside of quotes, and goes on as long as there are characters that can stand in a
number (`Json.numerals`).  A text is `Json.Integral` if all of them spell integers that a reader can
tell.

* `Json.IntegralFrom.exists_int` : where a number begins in such a text, an integer is spelled;
* `Json.Reader.numeralsFrom_of_textBody` : a reader leaves a quoted text where the scan for literals
  leaves it.
-/

namespace ToolRelay

namespace Json

/-! ### Number literals -/

/-- Where a scan through a text stands. -/
inductive Scan where
  /-- Outside of quotes and numbers. -/
  | outside
  /-- In a number that has been found. -/
  | number
  /-- Between quotes. -/
  | quoted
  /-- Between quotes, after a backslash. -/
  | escaped

/-- Whether a number begins with a character. -/
def beginsNumber (c : Char) : Bool := Reader.isDigit c || c == '-'

/-- Whether a character can stand in a number. -/
def inNumber (c : Char) : Bool := beginsNumber c || c == '+' || c == '.' || c == 'e' || c == 'E'

/-- The number literals that are found from a place on. -/
def numeralsFrom : Scan → List Char → List (List Char)
  | _, [] => []
  | .outside, c :: s =>
    if c = '"' then numeralsFrom .quoted s
    else if beginsNumber c then (c :: s.takeWhile inNumber) :: numeralsFrom .number s
    else numeralsFrom .outside s
  | .number, c :: s =>
    if inNumber c then numeralsFrom .number s
    else if c = '"' then numeralsFrom .quoted s
    else numeralsFrom .outside s
  | .quoted, c :: s =>
    if c = '"' then numeralsFrom .outside s
    else if c = '\\' then numeralsFrom .escaped s
    else numeralsFrom .quoted s
  | .escaped, _ :: s => numeralsFrom .quoted s

/-- The number literals of a text. -/
def numerals (s : String) : List (List Char) := numeralsFrom .outside s.toList

/-- A literal that spells an integer of 64 bits, with a sign or without one; `-0` spells none. -/
def IsInteger (numeral : List Char) : Prop :=
  ∃ n : Int, -0x8000000000000000 ≤ n ∧ n ≤ Reader.maxInt ∧ numeral = (toString n).toList

/-- All literals from a place on spell integers. -/
def IntegralFrom (scan : Scan) (s : List Char) : Prop :=
  ∀ numeral ∈ numeralsFrom scan s, IsInteger numeral

/-- All number literals of a text spell integers. -/
def Integral (s : String) : Prop := ∀ numeral ∈ numerals s, IsInteger numeral

variable {c : Char} {s t : List Char}

/-- A character that neither opens a quoted text nor begins a number. -/
def Passes (c : Char) : Prop := c ≠ '"' ∧ beginsNumber c = false

instance (c : Char) : Decidable (Passes c) := inferInstanceAs (Decidable (_ ∧ _))

theorem numeralsFrom_cons_of_passes (h : Passes c) :
    numeralsFrom .outside (c :: s) = numeralsFrom .outside s := by
  rw [numeralsFrom, if_neg h.1, if_neg (by simp [h.2])]

theorem numeralsFrom_append_of_passes (h : ∀ c ∈ s, Passes c) :
    numeralsFrom .outside (s ++ t) = numeralsFrom .outside t := by
  induction s with
  | nil => rfl
  | cons c s ih =>
    obtain ⟨hc, hs⟩ := List.forall_mem_cons.1 h
    rw [List.cons_append, numeralsFrom_cons_of_passes hc, ih hs]

/-- A number ends before the first character that cannot stand in it. -/
theorem numeralsFrom_number (s : List Char) :
    numeralsFrom .number s = numeralsFrom .outside (s.dropWhile inNumber) := by
  induction s with
  | nil => rfl
  | cons c s ih =>
    rw [numeralsFrom]
    by_cases hc : inNumber c
    · rw [if_pos hc, ih, List.dropWhile_cons_of_pos hc]
    · rw [if_neg hc, List.dropWhile_cons_of_neg hc, numeralsFrom]
      have hb : ¬ beginsNumber c = true := fun hb => hc (by simp [inNumber, hb])
      rw [if_neg hb]

theorem follows_dropWhile (s : List Char) : Reader.Follows (s.dropWhile inNumber) := by
  intro c hc
  have h := Text.eq_false_of_mem_head?_dropWhile hc
  simp only [inNumber, beginsNumber, Bool.or_eq_false_iff, beq_eq_false_iff_ne] at h
  exact ⟨h.1.1.1.1.1, h.1.1.2, h.1.2, h.2⟩

/-- Where a number begins in a text whose numbers are integers, an integer is spelled. -/
theorem IntegralFrom.exists_int (h : IntegralFrom .outside (c :: s)) (hc : beginsNumber c = true) :
    ∃ (n : Int) (t : List Char), -0x8000000000000000 ≤ n ∧ n ≤ Reader.maxInt ∧
      c :: s = (toString n).toList ++ t ∧ Reader.Follows t ∧ IntegralFrom .outside t := by
  have hq : c ≠ '"' := Reader.ne_of_test hc rfl
  rw [IntegralFrom, numeralsFrom, if_neg hq, if_pos hc, List.forall_mem_cons,
    numeralsFrom_number] at h
  obtain ⟨⟨n, lo, hi, hn⟩, hrest⟩ := h
  refine ⟨n, s.dropWhile inNumber, lo, hi, ?_, follows_dropWhile s, hrest⟩
  rw [← hn, List.cons_append, List.takeWhile_append_dropWhile]

namespace Reader

variable {α : Type}

/-! ### Between quotes -/

theorem failAt_ne_ok {complaint : Complaint} {i : Nat} {a : α} {cur : Text.Cursor} :
    failAt complaint i s ≠ .ok a cur := nofun

theorem failHex_ne_ok {i : Nat} {a : α} {cur : Text.Cursor} : failHex i s ≠ .ok a cur := by
  rw [failHex]
  split <;> exact failAt_ne_ok

theorem numeralsFrom_escape (e : Char) (s : List Char) :
    numeralsFrom .quoted ('\\' :: e :: s) = numeralsFrom .quoted s := rfl

theorem numeralsFrom_quoted_cons (hq : c ≠ '"') (hb : c ≠ '\\') :
    numeralsFrom .quoted (c :: s) = numeralsFrom .quoted s := by
  rw [numeralsFrom, if_neg hq, if_neg hb]

/-- The digits of a code unit are nothing but characters between quotes. -/
theorem numeralsFrom_codeUnit {x y z w : Char} {n : Nat} (h : codeUnit? x y z w = some n) :
    numeralsFrom .quoted ('\\' :: 'u' :: x :: y :: z :: w :: s) = numeralsFrom .quoted s := by
  have hdigit {d : Char} {k : Nat} (hd : hexValue? d = some k) (s : List Char) :
      numeralsFrom .quoted (d :: s) = numeralsFrom .quoted s := by
    have hne : ∀ x, hexValue? x = none → d ≠ x := by
      rintro x hx rfl
      rw [hd] at hx
      contradiction
    exact numeralsFrom_quoted_cons (hne _ rfl) (hne _ rfl)
  simp only [codeUnit?, Option.bind_eq_bind, Option.bind_eq_some_iff] at h
  obtain ⟨a, ha, b, hb, c, hc, d, hd, -⟩ := h
  rw [numeralsFrom_escape, hdigit ha, hdigit hb, hdigit hc, hdigit hd]

/-- A text is read up to the quote that the scan finds. -/
theorem numeralsFrom_of_textBody {i : Nat} {done : List Char} {x : String} {cur : Text.Cursor}
    (h : textBody i done s = .ok x cur) :
    numeralsFrom .quoted s = numeralsFrom .outside cur.rest := by
  revert h
  fun_induction textBody i done s
  all_goals intro h
  -- a text that breaks off or is broken gives nothing
  all_goals try exact absurd h failAt_ne_ok
  all_goals try exact absurd h failHex_ne_ok
  case case2 =>
    cases h
    rfl
  case case4 ih =>
    rw [numeralsFrom_escape]
    exact ih h
  case case10 hhigh _ _ _ _ _ _ _ _ hlow _ _ _ ih =>
    rw [numeralsFrom_codeUnit hhigh, numeralsFrom_codeUnit hlow]
    exact ih h
  case case15 hunit _ _ _ _ ih =>
    rw [numeralsFrom_codeUnit hunit]
    exact ih h
  case case19 hq hb _ ih =>
    rw [numeralsFrom_quoted_cons hq hb]
    exact ih h

theorem numeralsFrom_of_skipTextBody {i : Nat} {cur : Text.Cursor}
    (h : skipTextBody i s = .ok () cur) :
    numeralsFrom .quoted s = numeralsFrom .outside cur.rest := by
  revert h
  fun_induction skipTextBody i s
  all_goals intro h
  all_goals try exact absurd h failAt_ne_ok
  all_goals try exact absurd h failHex_ne_ok
  case case2 =>
    cases h
    rfl
  case case4 ih =>
    rw [numeralsFrom_escape]
    exact ih h
  case case6 hunit _ _ ih =>
    rw [numeralsFrom_codeUnit hunit]
    exact ih h
  case case10 hq hb _ ih =>
    rw [numeralsFrom_quoted_cons hq hb]
    exact ih h

end Reader

end Json

end ToolRelay
