import Mathlib.Tactic.SplitIfs
import ToolRelay.Document.Delimiters

/-!
# The language of balanced texts

The texts without a problem are those of a grammar: a balanced text is a sequence of parts, and a
part is a character without a meaning, a quoted text, or a balanced text between brackets.

`Completes s` is the language of what may still follow in the state `s`: it closes the quoted text,
if the reader is in one, and then the open brackets from the innermost on.  Reading a character
removes it from this language (`completes_cons_iff`), and a text may end where nothing has to
follow (`completes_nil_iff`).

* `Balanced`, `Part`, `QuotedBody` : the grammar;
* `run_accepts_iff` : what the reader accepts from any state;
* `check_eq_ok_iff` : **the texts without a problem are the balanced ones.**
-/

namespace ToolRelay

namespace Delimiters

/-! ### The grammar -/

/-- A character without a meaning outside of quoted texts: neither a quote nor a bracket. -/
def IsPlain (c : Char) : Prop := c ≠ '"' ∧ ∀ b : Bracket, c ≠ b.opening ∧ c ≠ b.closing

/-- What may stand between two quotes. -/
inductive QuotedBody : List Char → Prop where
  /-- Nothing. -/
  | nil : QuotedBody []
  /-- A character that is neither a quote nor a backslash. -/
  | char {c : Char} {cs : List Char} (hq : c ≠ '"') (hb : c ≠ '\\') (h : QuotedBody cs) :
      QuotedBody (c :: cs)
  /-- A backslash with any character after it. -/
  | escape (c : Char) {cs : List Char} (h : QuotedBody cs) : QuotedBody ('\\' :: c :: cs)

mutual

/-- A sequence of parts. -/
inductive Balanced : List Char → Prop where
  /-- No part. -/
  | nil : Balanced []
  /-- A part and those after it. -/
  | cons {xs ys : List Char} (hx : Part xs) (hy : Balanced ys) : Balanced (xs ++ ys)

/-- A part of a balanced text. -/
inductive Part : List Char → Prop where
  /-- A character without a meaning. -/
  | plain {c : Char} (hc : IsPlain c) : Part [c]
  /-- A quoted text. -/
  | quoted {body : List Char} (h : QuotedBody body) : Part ('"' :: (body ++ ['"']))
  /-- A balanced text between brackets. -/
  | bracketed (b : Bracket) {xs : List Char} (h : Balanced xs) :
      Part (b.opening :: (xs ++ [b.closing]))

end

/-! ### Brackets -/

section Brackets

variable {c : Char} {b : Bracket}

theorem opened?_eq_some_iff : Bracket.opened? c = some b ↔ c = b.opening := by
  unfold Bracket.opened?
  constructor
  · intro h
    split_ifs at h with hround hsquare hcurly
    · cases h; exact hround
    · cases h; exact hsquare
    · cases h; exact hcurly
  · rintro rfl
    cases b <;> decide

theorem closed?_eq_some_iff : Bracket.closed? c = some b ↔ c = b.closing := by
  unfold Bracket.closed?
  constructor
  · intro h
    split_ifs at h with hround hsquare hcurly
    · cases h; exact hround
    · cases h; exact hsquare
    · cases h; exact hcurly
  · rintro rfl
    cases b <;> decide

@[simp]
theorem opened?_opening (b : Bracket) : Bracket.opened? b.opening = some b :=
  opened?_eq_some_iff.2 rfl

@[simp]
theorem opened?_closing (b : Bracket) : Bracket.opened? b.closing = none := by
  cases b <;> decide

@[simp]
theorem closed?_closing (b : Bracket) : Bracket.closed? b.closing = some b :=
  closed?_eq_some_iff.2 rfl

@[simp]
theorem opening_ne_quote (b : Bracket) : b.opening ≠ '"' := by
  cases b <;> decide

@[simp]
theorem closing_ne_quote (b : Bracket) : b.closing ≠ '"' := by
  cases b <;> decide

@[simp]
theorem opening_ne_closing (b b' : Bracket) : b.opening ≠ b'.closing := by
  cases b <;> cases b' <;> decide

@[simp]
theorem opening_inj {b b' : Bracket} : b.opening = b'.opening ↔ b = b' := by
  cases b <;> cases b' <;> decide

@[simp]
theorem closing_inj {b b' : Bracket} : b.closing = b'.closing ↔ b = b' := by
  cases b <;> cases b' <;> decide

@[simp]
theorem not_isPlain_quote : ¬ IsPlain '"' := fun h => h.1 rfl

@[simp]
theorem not_isPlain_opening (b : Bracket) : ¬ IsPlain b.opening := fun h => (h.2 b).1 rfl

@[simp]
theorem not_isPlain_closing (b : Bracket) : ¬ IsPlain b.closing := fun h => (h.2 b).2 rfl

theorem isPlain_iff :
    IsPlain c ↔ c ≠ '"' ∧ Bracket.opened? c = none ∧ Bracket.closed? c = none := by
  constructor
  · rintro ⟨hq, hb⟩
    refine ⟨hq, ?_, ?_⟩
    · exact Option.eq_none_iff_forall_ne_some.2 fun b h => (hb b).1 (opened?_eq_some_iff.1 h)
    · exact Option.eq_none_iff_forall_ne_some.2 fun b h => (hb b).2 (closed?_eq_some_iff.1 h)
  · rintro ⟨hq, ho, hc⟩
    refine ⟨hq, fun b => ⟨?_, ?_⟩⟩
    · rintro rfl
      simp at ho
    · rintro rfl
      simp at hc

end Brackets

/-! ### What may follow -/

/-- What may follow where the given brackets are open, innermost first. -/
inductive Closes : List Bracket → List Char → Prop where
  /-- No bracket is open. -/
  | nil {xs : List Char} (h : Balanced xs) : Closes [] xs
  /-- The innermost bracket is closed after a balanced text. -/
  | cons {b : Bracket} {bs : List Bracket} {xs ys : List Char} (hx : Balanced xs)
      (hy : Closes bs ys) : Closes (b :: bs) (xs ++ b.closing :: ys)

/-- What may follow inside a quoted text where the given brackets are open around it. -/
def Unquotes (bs : List Bracket) (xs : List Char) : Prop :=
  ∃ body ys, QuotedBody body ∧ xs = body ++ '"' :: ys ∧ Closes bs ys

/-- What may follow in a state. -/
def Completes (s : State) (xs : List Char) : Prop :=
  let bs := s.open_.map (·.1)
  match s.mode with
  | .plain => Closes bs xs
  | .quoted _ => Unquotes bs xs
  | .escaped _ => ∃ c ys, xs = c :: ys ∧ Unquotes bs ys

variable {b : Bracket} {bs : List Bracket} {c : Char} {xs ys : List Char}

/-- A part may stand before whatever may follow. -/
theorem Closes.part (hx : Part xs) (hy : Closes bs ys) : Closes bs (xs ++ ys) := by
  cases hy with
  | nil hy => exact .nil (.cons hx hy)
  | cons hy hz =>
    rw [← List.append_assoc]
    exact .cons (.cons hx hy) hz

/-- An opening bracket makes its closing bracket due. -/
theorem closes_opening (h : Closes (b :: bs) xs) : Closes bs (b.opening :: xs) := by
  cases h with
  | @cons _ _ ys zs hy hz =>
    have hpart : Part (b.opening :: (ys ++ [b.closing])) := .bracketed b hy
    have := hz.part hpart
    simpa using this

theorem closes_quote (h : Unquotes bs xs) : Closes bs ('"' :: xs) := by
  obtain ⟨body, ys, hbody, rfl, hy⟩ := h
  have := hy.part (.quoted hbody)
  simpa using this

theorem closes_nil_iff : Closes bs [] ↔ bs = [] := by
  constructor
  · intro h
    generalize hxs : ([] : List Char) = xs at h
    cases h with
    | nil => rfl
    | cons => simp at hxs
  · rintro rfl
    exact .nil .nil

/-- What a first part begins with, and what may follow after its first character. -/
theorem closes_append_of_part (hx : Part xs) (hy : Closes bs ys) :
    ∃ c zs, xs ++ ys = c :: zs ∧
      ((IsPlain c ∧ Closes bs zs) ∨ (c = '"' ∧ Unquotes bs zs) ∨
        ∃ b, c = Bracket.opening b ∧ Closes (b :: bs) zs) := by
  cases hx with
  | plain hc => exact ⟨_, _, rfl, .inl ⟨hc, hy⟩⟩
  | @quoted body hbody =>
    refine ⟨'"', body ++ '"' :: ys, by simp, .inr (.inl ⟨rfl, body, ys, hbody, rfl, hy⟩)⟩
  | @bracketed b zs hz =>
    refine ⟨b.opening, zs ++ b.closing :: ys, by simp, .inr (.inr ⟨b, rfl, .cons hz hy⟩)⟩

/-- **The first character of what may follow** outside of quoted texts. -/
theorem closes_cons_iff :
    Closes bs (c :: xs) ↔
      (IsPlain c ∧ Closes bs xs) ∨ (c = '"' ∧ Unquotes bs xs) ∨
      (∃ b, c = Bracket.opening b ∧ Closes (b :: bs) xs) ∨
      (∃ b bs', bs = b :: bs' ∧ c = Bracket.closing b ∧ Closes bs' xs) := by
  constructor
  · intro h
    generalize hcs : c :: xs = cs at h
    -- what follows begins with a part, or else with the closing bracket that is due
    have key : ∀ {zs ws : List Char}, Part zs → Closes bs ws → c :: xs = zs ++ ws →
        (IsPlain c ∧ Closes bs xs) ∨ (c = '"' ∧ Unquotes bs xs) ∨
          ∃ b, c = Bracket.opening b ∧ Closes (b :: bs) xs := by
      intro zs ws hz hw heq
      obtain ⟨c', xs', heq', h'⟩ := closes_append_of_part hz hw
      obtain ⟨rfl, rfl⟩ := List.cons.inj (heq.trans heq')
      exact h'
    cases h with
    | nil hb =>
      cases hb with
      | nil => contradiction
      | cons hx hy =>
        rcases key hx (.nil hy) hcs with h' | h' | h'
        · exact .inl h'
        · exact .inr (.inl h')
        · exact .inr (.inr (.inl h'))
    | @cons b bs' ys zs hb hz =>
      cases hb with
      | nil =>
        obtain ⟨rfl, rfl⟩ := List.cons.inj hcs
        exact .inr (.inr (.inr ⟨b, bs', rfl, rfl, hz⟩))
      | cons hx hy =>
        rw [List.append_assoc] at hcs
        rcases key hx (.cons hy hz) hcs with h' | h' | h'
        · exact .inl h'
        · exact .inr (.inl h')
        · exact .inr (.inr (.inl h'))
  · rintro (⟨hc, h⟩ | ⟨rfl, h⟩ | ⟨b, rfl, h⟩ | ⟨b, bs', rfl, rfl, h⟩)
    · exact h.part (.plain hc)
    · exact closes_quote h
    · exact closes_opening h
    · exact @Closes.cons _ _ [] _ .nil h

theorem closes_plain_iff (hc : IsPlain c) : Closes bs (c :: xs) ↔ Closes bs xs := by
  have hopening : ∀ b, c ≠ Bracket.opening b := fun b => (hc.2 b).1
  have hclosing : ∀ b, c ≠ Bracket.closing b := fun b => (hc.2 b).2
  rw [closes_cons_iff]
  simp [hc, hc.1, hopening, hclosing]

theorem closes_quote_iff : Closes bs ('"' :: xs) ↔ Unquotes bs xs := by
  have hopening : ∀ b, '"' ≠ Bracket.opening b := fun b => (opening_ne_quote b).symm
  have hclosing : ∀ b, '"' ≠ Bracket.closing b := fun b => (closing_ne_quote b).symm
  rw [closes_cons_iff]
  simp [hopening, hclosing]

theorem closes_opening_iff : Closes bs (b.opening :: xs) ↔ Closes (b :: bs) xs := by
  rw [closes_cons_iff]
  simp

theorem closes_closing_iff :
    Closes bs (b.closing :: xs) ↔ ∃ bs', bs = b :: bs' ∧ Closes bs' xs := by
  rw [closes_cons_iff]
  constructor
  · rintro (⟨hc, -⟩ | ⟨hc, -⟩ | ⟨b', hc, -⟩ | ⟨b', bs', rfl, hc, h⟩)
    · exact absurd hc (not_isPlain_closing b)
    · exact absurd hc (closing_ne_quote b)
    · exact absurd hc.symm (opening_ne_closing b' b)
    · obtain rfl := closing_inj.1 hc
      exact ⟨bs', rfl, h⟩
  · rintro ⟨bs', rfl, h⟩
    exact .inr (.inr (.inr ⟨b, bs', rfl, rfl, h⟩))

/-- The first character of what may follow inside a quoted text. -/
theorem unquotes_cons_iff :
    Unquotes bs (c :: xs) ↔
      if c = '\\' then ∃ d ys, xs = d :: ys ∧ Unquotes bs ys
      else if c = '"' then Closes bs xs
      else Unquotes bs xs := by
  constructor
  · rintro ⟨body, ys, hbody, heq, hy⟩
    cases hbody with
    | nil =>
      obtain ⟨rfl, rfl⟩ := List.cons.inj heq
      simpa using hy
    | @char d ds hq hb hds =>
      obtain ⟨rfl, rfl⟩ := List.cons.inj heq
      rw [if_neg hb, if_neg hq]
      exact ⟨ds, ys, hds, rfl, hy⟩
    | @escape d ds hds =>
      obtain ⟨rfl, rfl⟩ := List.cons.inj heq
      rw [if_pos rfl]
      exact ⟨d, _, rfl, ds, ys, hds, rfl, hy⟩
  · intro h
    split at h
    · obtain ⟨d, zs, rfl, body, ys, hbody, rfl, hy⟩ := h
      subst_vars
      exact ⟨'\\' :: d :: body, ys, .escape d hbody, rfl, hy⟩
    · rename_i hb
      split at h
      · subst_vars
        exact ⟨[], xs, .nil, rfl, h⟩
      · rename_i hq
        obtain ⟨body, ys, hbody, rfl, hy⟩ := h
        exact ⟨c :: body, ys, .char hq hb hbody, rfl, hy⟩

theorem not_unquotes_nil : ¬ Unquotes bs [] := by
  rintro ⟨body, ys, -, h, -⟩
  simp at h

/-! ### The reader -/

variable {s : State}

theorem completes_nil_iff : Completes s [] ↔ finish s = .ok () := by
  obtain ⟨line, mode, opened⟩ := s
  cases mode with
  | plain =>
    cases opened with
    | nil => simp [Completes, finish, closes_nil_iff]
    | cons => simp [Completes, finish, closes_nil_iff]
  | quoted n => simp [Completes, finish, not_unquotes_nil]
  | escaped n => simp [Completes, finish]

/-- Outside of quoted texts a character is read exactly if it may follow. -/
theorem closes_cons_iff_step {line : Nat} {opened : List (Bracket × Nat)} :
    Closes (opened.map (·.1)) (c :: xs) ↔
      ∃ s', step ⟨line, .plain, opened⟩ c = .ok s' ∧ Completes s' xs := by
  by_cases hq : c = '"'
  · subst hq
    rw [closes_quote_iff]
    simp [step, Completes]
  · cases ho : Bracket.opened? c with
    | some b =>
      obtain rfl := opened?_eq_some_iff.1 ho
      rw [closes_opening_iff]
      simp [step, Completes]
    | none =>
      cases hc : Bracket.closed? c with
      | none =>
        rw [closes_plain_iff (isPlain_iff.2 ⟨hq, ho, hc⟩)]
        simp [step, Completes, hq, ho, hc]
      | some b =>
        obtain rfl := closed?_eq_some_iff.1 hc
        rw [closes_closing_iff]
        cases opened with
        | nil => simp [step]
        | cons first rest =>
          by_cases hb : first.1 = b
          · simp [step, Completes, hb]
          · simp [step, hb]

/-- **Reading a character** removes it from what may follow; a character that may not follow is a
problem. -/
theorem completes_cons_iff :
    Completes s (c :: xs) ↔ ∃ s', step s c = .ok s' ∧ Completes s' xs := by
  obtain ⟨line, mode, opened⟩ := s
  cases mode with
  | plain => exact closes_cons_iff_step
  | quoted n =>
    have h : Unquotes (opened.map (·.1)) (c :: xs) ↔ _ := unquotes_cons_iff
    by_cases hb : c = '\\'
    · subst hb
      simpa [Completes, step] using h
    · by_cases hq : c = '"'
      · subst hq
        simpa [Completes, step] using h
      · simpa [Completes, step, hb, hq] using h
  | escaped n =>
    constructor
    · rintro ⟨d, ys, heq, h⟩
      obtain ⟨rfl, rfl⟩ := List.cons.inj heq
      exact ⟨_, rfl, h⟩
    · rintro ⟨s', hs', h⟩
      cases hs'
      exact ⟨c, xs, rfl, h⟩

/-- **What the reader accepts** from any state is what may follow in it. -/
theorem run_accepts_iff :
    (∃ s', run s xs = .ok s' ∧ finish s' = .ok ()) ↔ Completes s xs := by
  induction xs generalizing s with
  | nil => simp [run, completes_nil_iff]
  | cons c xs ih =>
    rw [completes_cons_iff]
    cases hstep : step s c with
    | error e => simp [run, hstep]
    | ok s' => simp [run, hstep, ih]

/-- **The texts without a problem are the balanced ones**: sequences of characters without a
meaning, quoted texts, and balanced texts between brackets of one kind. -/
theorem check_eq_ok_iff (s : String) : check s = .ok () ↔ Balanced s.toList := by
  have hstart : Completes .start s.toList ↔ Balanced s.toList := by
    constructor
    · intro h
      cases h with
      | nil h => exact h
    · exact .nil
  rw [← hstart, ← run_accepts_iff, check]
  cases run .start s.toList with
  | error e => simp
  | ok s' => simp

/-- A backslash outside of quoted texts has no meaning, and a bracket inside of them has none. -/
example : check "\\(\"]\\\"\")" = .ok () := rfl

end Delimiters

end ToolRelay
