import Mathlib.Data.List.Induction
import ToolRelay.Document.Basic
import ToolRelay.Proofs.Document.Delimiters

/-!
# The first problem of a text

After every beginning of a text that can still be completed the reader stands in the state that the
beginning itself describes: how many lines it has, whether it ends in a quoted text and where that
begins, and which brackets are open in it and on which lines (`Opened`, `Reached`).  One character
more keeps this (`Reached.step`), and so does a whole text (`reached_of_run`).

* `viable_iff` : the beginnings that can be completed are those that are read without a problem;
* `check_finds_first` : **the problem that is found is the first one, at its place.**
-/

namespace ToolRelay

namespace Delimiters

/-! ### Beginnings of texts -/

/-- The line of what comes after a text. -/
def lineAfter (xs : List Char) : Nat := 1 + xs.count '\n'

/-- The text is the beginning of one without a problem. -/
def Viable (xs : List Char) : Prop := ∃ ys, check (String.ofList (xs ++ ys)) = .ok ()

/-- A text that ends outside of quoted texts, and the brackets that are open at its end, innermost
first, each with its line. -/
inductive Opened : List Char → List (Bracket × Nat) → Prop where
  /-- No bracket is open. -/
  | nil {xs : List Char} (h : Balanced xs) : Opened xs []
  /-- A bracket is opened, and what comes after it is balanced. -/
  | cons {xs ys : List Char} {opened : List (Bracket × Nat)} (b : Bracket) (h : Opened xs opened)
      (hy : Balanced ys) : Opened (xs ++ b.opening :: ys) ((b, lineAfter xs) :: opened)

/-- What may stand between a quote and the end of a text in which no quote answers it. -/
inductive Unanswered : List Char → Prop where
  /-- Whole characters of a quoted text. -/
  | body {xs : List Char} (h : QuotedBody xs) : Unanswered xs
  /-- After them a backslash. -/
  | escape {xs : List Char} (h : QuotedBody xs) : Unanswered (xs ++ ['\\'])

/-- The text ends inside a quoted text that begins on the given line. -/
def EndsQuoted (xs : List Char) (startedOn : Nat) : Prop :=
  ∃ before body opened, xs = before ++ '"' :: body ∧ Opened before opened ∧ Unanswered body ∧
    startedOn = lineAfter before

/-- A bracket is closed at a place where it may not be: what comes before it is the beginning of a
text without a problem, and with it no longer. -/
structure Misplaced (before : List Char) (line : Nat) (closed : Bracket) : Prop where
  /-- What comes before it can be completed. -/
  viable : Viable before
  /-- With it, it cannot. -/
  not_viable : ¬ Viable (before ++ [closed.closing])
  /-- The line is that of the bracket. -/
  line_eq : line = lineAfter before

/-- The problem is the first one of a text.  A closing bracket is misplaced, and either no bracket
is open there or another one is the innermost; or nothing is wrong up to the end, which lies in a
quoted text or leaves a bracket open. -/
def Problem.IsFirst (xs : List Char) : Problem → Prop
  | .unexpected line closed =>
    ∃ before after, xs = before ++ closed.closing :: after ∧ Misplaced before line closed ∧
      Opened before []
  | .mismatch line closed opened openedOn =>
    ∃ before after, xs = before ++ closed.closing :: after ∧ Misplaced before line closed ∧
      ∃ others, Opened before ((opened, openedOn) :: others)
  | .unterminated startedOn =>
    (∀ before, before <+: xs → Viable before) ∧ EndsQuoted xs startedOn
  | .unclosed opened openedOn =>
    (∀ before, before <+: xs → Viable before) ∧ (∀ startedOn, ¬ EndsQuoted xs startedOn) ∧
      ∃ others, Opened xs ((opened, openedOn) :: others)

variable {xs ys : List Char} {c : Char} {s s' : State} {b : Bracket}
  {opened : List (Bracket × Nat)}

@[simp]
theorem opening_ne_newline (b : Bracket) : b.opening ≠ '\n' := by
  cases b <;> decide

@[simp]
theorem closing_ne_newline (b : Bracket) : b.closing ≠ '\n' := by
  cases b <;> decide

theorem lineAfter_append (xs ys : List Char) :
    lineAfter (xs ++ ys) = lineAfter xs + ys.count '\n' := by
  rw [lineAfter, List.count_append, ← Nat.add_assoc, lineAfter]

theorem Balanced.append : ∀ {xs ys : List Char}, Balanced xs → Balanced ys → Balanced (xs ++ ys)
  | _, _, .nil, hy => hy
  | _, _, .cons hx hxs, hy => by
    rw [List.append_assoc]
    exact .cons hx (hxs.append hy)

theorem Part.balanced (h : Part xs) : Balanced xs := by
  simpa using Balanced.cons h .nil

/-- A balanced text changes nothing about the open brackets. -/
theorem Opened.append (h : Opened xs opened) (hy : Balanced ys) : Opened (xs ++ ys) opened := by
  cases h with
  | nil hx => exact .nil (hx.append hy)
  | cons b h hx =>
    rw [List.append_assoc, List.cons_append]
    exact .cons b h (hx.append hy)

/-! ### Reading what the grammar describes -/

theorem run_append_of_ok (h : run s xs = .ok s') (ys : List Char) :
    run s (xs ++ ys) = run s' ys := by
  induction xs generalizing s with
  | nil =>
    cases h
    rfl
  | cons c xs ih =>
    rw [run] at h
    rw [List.cons_append, run]
    cases hstep : step s c with
    | ok first => exact ih (by simpa [hstep] using h)
    | error e => simp [hstep] at h

theorem run_cons_of_ok (h : step s c = .ok s') (xs : List Char) : run s (c :: xs) = run s' xs := by
  rw [run, h]

/-- The beginning of what is read without a problem is read without a problem. -/
theorem exists_run_of_append (h : run s (xs ++ ys) = .ok s') :
    ∃ between, run s xs = .ok between := by
  induction xs generalizing s with
  | nil => exact ⟨s, rfl⟩
  | cons c xs ih =>
    rw [List.cons_append, run] at h
    cases hstep : step s c with
    | ok first =>
      rw [run_cons_of_ok hstep]
      exact ih (by simpa [hstep] using h)
    | error e => simp [hstep] at h

/-- Inside a quoted text nothing but lines is counted. -/
theorem run_quotedBody (h : QuotedBody xs) (line startedOn : Nat)
    (opened : List (Bracket × Nat)) :
    run ⟨line, .quoted startedOn, opened⟩ xs =
      .ok ⟨line + xs.count '\n', .quoted startedOn, opened⟩ := by
  induction h generalizing line with
  | nil => rfl
  | @char c cs hq hb _ ih =>
    rw [run_cons_of_ok (by simp only [step, hq, hb, if_false]; rfl), ih]
    by_cases hc : c = '\n'
    · simp [hc, Nat.add_assoc, Nat.add_comm 1]
    · simp [hc]
  | @escape c cs _ ih =>
    rw [run_cons_of_ok rfl, run_cons_of_ok rfl, ih]
    by_cases hc : c = '\n'
    · simp [hc, Nat.add_assoc, Nat.add_comm 1]
    · simp [hc]

theorem step_of_isPlain (h : IsPlain c) (line : Nat) (opened : List (Bracket × Nat)) :
    step ⟨line, .plain, opened⟩ c = .ok ⟨line + [c].count '\n', .plain, opened⟩ := by
  obtain ⟨hq, ho, hc⟩ := isPlain_iff.1 h
  by_cases hn : c = '\n'
  · subst hn
    rfl
  · simp [step, hn, hq, ho, hc]

@[simp]
theorem step_quote (line : Nat) (opened : List (Bracket × Nat)) :
    step ⟨line, .plain, opened⟩ '"' = .ok ⟨line, .quoted line, opened⟩ := rfl

@[simp]
theorem step_opening (line : Nat) (opened : List (Bracket × Nat)) (b : Bracket) :
    step ⟨line, .plain, opened⟩ b.opening = .ok ⟨line, .plain, (b, line) :: opened⟩ := by
  cases b <;> rfl

@[simp]
theorem step_closing (line : Nat) (opened : List (Bracket × Nat)) (b : Bracket) :
    step ⟨line, .plain, opened⟩ b.closing =
      match opened with
      | [] => .error (.unexpected line b)
      | (o, openedOn) :: rest =>
        if o = b then .ok ⟨line, .plain, rest⟩ else .error (.mismatch line b o openedOn) := by
  cases b <;> rfl

mutual

/-- A balanced text leaves the reader as it was, but for the line. -/
theorem run_balanced : ∀ {xs : List Char}, Balanced xs → ∀ line opened,
    run ⟨line, .plain, opened⟩ xs = .ok ⟨line + xs.count '\n', .plain, opened⟩
  | _, .nil, _, _ => rfl
  | _, .cons hx hy, line, opened => by
    rw [run_append_of_ok (run_part hx line opened), run_balanced hy, List.count_append,
      Nat.add_assoc]

/-- So does a part of it. -/
theorem run_part : ∀ {xs : List Char}, Part xs → ∀ line opened,
    run ⟨line, .plain, opened⟩ xs = .ok ⟨line + xs.count '\n', .plain, opened⟩
  | _, .plain hc, line, opened => by
    rw [run_cons_of_ok (step_of_isPlain hc line opened)]
    rfl
  | _, .quoted h, line, opened => by
    rw [run_cons_of_ok (step_quote line opened), run_append_of_ok (run_quotedBody h _ _ _),
      run_cons_of_ok rfl, run]
    simp
  | _, .bracketed b h, line, opened => by
    have hclose : ∀ n, step ⟨n, .plain, (b, line) :: opened⟩ b.closing = .ok ⟨n, .plain, opened⟩ :=
      fun n => by simp
    rw [run_cons_of_ok (step_opening line opened b), run_append_of_ok (run_balanced h _ _),
      run_cons_of_ok (hclose _), run]
    simp

end

/-- A text with the given brackets open at its end is read, and they are what is open then. -/
theorem run_of_opened (h : Opened xs opened) :
    run .start xs = .ok ⟨lineAfter xs, .plain, opened⟩ := by
  induction h with
  | nil h => exact run_balanced h 1 []
  | cons b _ hy ih =>
    rw [run_append_of_ok ih, run_cons_of_ok (step_opening ..), run_balanced hy, lineAfter_append]
    simp

theorem run_of_endsQuoted {startedOn : Nat} (h : EndsQuoted xs startedOn) :
    ∃ s, run .start xs = .ok s ∧ finish s = .error (.unterminated startedOn) := by
  obtain ⟨before, body, opened, rfl, hopened, hbody, rfl⟩ := h
  rw [run_append_of_ok (run_of_opened hopened), run_cons_of_ok (step_quote ..)]
  cases hbody with
  | body hbody => exact ⟨_, run_quotedBody hbody _ _ _, rfl⟩
  | escape hbody =>
    rw [run_append_of_ok (run_quotedBody hbody _ _ _), run_cons_of_ok rfl]
    exact ⟨_, rfl, rfl⟩

/-! ### What the reader knows -/

/-- What a state says about the text that has been read. -/
inductive Reached (xs : List Char) : State → Prop where
  /-- The text ends outside of quoted texts. -/
  | plain {line : Nat} {opened : List (Bracket × Nat)} (hline : line = lineAfter xs)
      (h : Opened xs opened) : Reached xs ⟨line, .plain, opened⟩
  /-- It ends in a quoted text. -/
  | quoted {line startedOn : Nat} {before body : List Char} {opened : List (Bracket × Nat)}
      (hline : line = lineAfter xs) (hstarted : startedOn = lineAfter before)
      (hxs : xs = before ++ '"' :: body) (h : Opened before opened) (hbody : QuotedBody body) :
      Reached xs ⟨line, .quoted startedOn, opened⟩
  /-- It ends in a quoted text, with a backslash. -/
  | escaped {line startedOn : Nat} {before body : List Char} {opened : List (Bracket × Nat)}
      (hline : line = lineAfter xs) (hstarted : startedOn = lineAfter before)
      (hxs : xs = before ++ '"' :: (body ++ ['\\'])) (h : Opened before opened)
      (hbody : QuotedBody body) : Reached xs ⟨line, .escaped startedOn, opened⟩

theorem QuotedBody.append (hx : QuotedBody xs) (hy : QuotedBody ys) : QuotedBody (xs ++ ys) := by
  induction hx with
  | nil => exact hy
  | char hq hb _ ih => exact .char hq hb ih
  | escape c _ ih => exact .escape c ih

theorem lineAfter_concat_of_ne (hc : c ≠ '\n') : lineAfter (xs ++ [c]) = lineAfter xs := by
  rw [lineAfter_append]
  simp [hc]

/-- Outside of quoted texts, one character more. -/
theorem Opened.reached_step (h : Opened xs opened)
    (hs : step ⟨lineAfter xs, .plain, opened⟩ c = .ok s') : Reached (xs ++ [c]) s' := by
  by_cases hq : c = '"'
  · subst hq
    obtain rfl := Except.ok.inj ((step_quote _ _).symm.trans hs)
    exact .quoted (lineAfter_concat_of_ne (by decide)).symm rfl rfl h .nil
  cases ho : Bracket.opened? c with
  | some b =>
    obtain rfl := opened?_eq_some_iff.1 ho
    obtain rfl := Except.ok.inj ((step_opening _ _ b).symm.trans hs)
    exact .plain (lineAfter_concat_of_ne (opening_ne_newline b)).symm (.cons b h .nil)
  | none =>
    cases hc : Bracket.closed? c with
    | none =>
      have hplain : IsPlain c := isPlain_iff.2 ⟨hq, ho, hc⟩
      obtain rfl := Except.ok.inj ((step_of_isPlain hplain _ _).symm.trans hs)
      exact .plain (lineAfter_append xs [c]).symm (h.append (Part.plain hplain).balanced)
    | some b =>
      obtain rfl := closed?_eq_some_iff.1 hc
      rw [step_closing] at hs
      -- the bracket closes the one that was opened last, and what stood open before stays open
      cases h with
      | nil => contradiction
      | @cons before inner _ o h hinner =>
        simp only at hs
        split_ifs at hs with ho
        subst ho
        obtain rfl := Except.ok.inj hs
        refine .plain (lineAfter_concat_of_ne (closing_ne_newline o)).symm ?_
        rw [List.append_assoc, List.cons_append]
        exact h.append (Part.bracketed o hinner).balanced

/-- **One character more.** -/
theorem Reached.step (h : Reached xs s) (hs : step s c = .ok s') : Reached (xs ++ [c]) s' := by
  have hline : (if c = '\n' then lineAfter xs + 1 else lineAfter xs) = lineAfter (xs ++ [c]) := by
    rw [lineAfter_append]
    by_cases hc : c = '\n' <;> simp [hc]
  cases h with
  | plain hl h =>
    subst hl
    exact h.reached_step hs
  | quoted hl hstarted hxs h hbody =>
    subst hl
    simp only [Delimiters.step, hline] at hs
    split_ifs at hs with hb hq
    · obtain rfl := Except.ok.inj hs
      exact .escaped rfl hstarted (by simp [hxs, hb]) h hbody
    · obtain rfl := Except.ok.inj hs
      subst hxs hq
      refine .plain rfl ?_
      rw [List.append_assoc]
      exact h.append (Part.quoted hbody).balanced
    · obtain rfl := Except.ok.inj hs
      exact .quoted rfl hstarted (by simp [hxs]) h (hbody.append (.char hq hb .nil))
  | escaped hl hstarted hxs h hbody =>
    subst hl
    simp only [Delimiters.step, hline] at hs
    obtain rfl := Except.ok.inj hs
    exact .quoted rfl hstarted (by simp [hxs]) h (hbody.append (.escape c .nil))

/-- **What the reader knows after a text.** -/
theorem reached_of_run (h : run .start xs = .ok s) : Reached xs s := by
  induction xs using List.reverseRecOn generalizing s with
  | nil =>
    obtain rfl := Except.ok.inj h
    exact .plain rfl (.nil .nil)
  | append_singleton xs c ih =>
    obtain ⟨between, hbetween⟩ := exists_run_of_append h
    rw [run_append_of_ok hbetween, run] at h
    cases hstep : Delimiters.step between c with
    | ok s'' =>
      rw [hstep] at h
      obtain rfl := Except.ok.inj h
      exact (ih hbetween).step hstep
    | error e => simp [hstep] at h

/-! ### What can be completed -/

/-- Something may follow in every state: what closes the quoted text and the open brackets. -/
theorem exists_completes (s : State) : ∃ ys, Completes s ys := by
  obtain ⟨line, mode, opened⟩ := s
  have hcloses : ∀ bs : List Bracket, Closes bs (bs.map Bracket.closing) := by
    intro bs
    induction bs with
    | nil => exact .nil .nil
    | cons b bs ih => exact @Closes.cons _ _ [] _ .nil ih
  have hunquotes : ∀ bs : List Bracket, Unquotes bs ('"' :: bs.map Bracket.closing) := fun bs =>
    ⟨[], _, .nil, rfl, hcloses bs⟩
  cases mode with
  | plain => exact ⟨_, hcloses _⟩
  | quoted n => exact ⟨_, hunquotes _⟩
  | escaped n => exact ⟨'x' :: _, 'x', _, rfl, hunquotes _⟩

/-- **A beginning can be completed exactly if it is read without a problem.** -/
theorem viable_iff : Viable xs ↔ ∃ s, run .start xs = .ok s := by
  constructor
  · rintro ⟨ys, h⟩
    rw [check, String.toList_ofList] at h
    cases hrun : run .start (xs ++ ys) with
    | ok s => exact exists_run_of_append hrun
    | error e => simp [hrun] at h
  · rintro ⟨s, h⟩
    obtain ⟨ys, hys⟩ := exists_completes s
    obtain ⟨s', hrun, hfinish⟩ := run_accepts_iff.2 hys
    refine ⟨ys, ?_⟩
    rw [check, String.toList_ofList, run_append_of_ok h, hrun]
    exact hfinish

theorem Viable.before (h : Viable ys) (hxs : xs <+: ys) : Viable xs := by
  obtain ⟨rest, rfl⟩ := hxs
  obtain ⟨s, hs⟩ := viable_iff.1 h
  exact viable_iff.2 (exists_run_of_append hs)

/-! ### Where reading stops -/

variable {p : Problem}

/-- A character is a problem if it closes a bracket that is not the innermost one. -/
theorem step_eq_error_iff : step s c = .error p ↔
    s.mode = .plain ∧ ∃ b, c = Bracket.closing b ∧
      ((s.open_ = [] ∧ p = .unexpected s.line b) ∨
        ∃ o openedOn rest, s.open_ = (o, openedOn) :: rest ∧ o ≠ b ∧
          p = .mismatch s.line b o openedOn) := by
  obtain ⟨line, mode, opened⟩ := s
  constructor
  · intro h
    cases mode with
    | escaped n => contradiction
    | quoted n =>
      simp only [step] at h
      split_ifs at h
    | plain =>
      refine ⟨rfl, ?_⟩
      by_cases hq : c = '"'
      · subst hq
        contradiction
      cases ho : Bracket.opened? c with
      | some b =>
        obtain rfl := opened?_eq_some_iff.1 ho
        rw [step_opening] at h
        contradiction
      | none =>
        cases hc : Bracket.closed? c with
        | none =>
          rw [step_of_isPlain (isPlain_iff.2 ⟨hq, ho, hc⟩)] at h
          contradiction
        | some b =>
          obtain rfl := closed?_eq_some_iff.1 hc
          rw [step_closing] at h
          cases opened with
          | nil => exact ⟨b, rfl, .inl ⟨rfl, (Except.error.inj h).symm⟩⟩
          | cons first rest =>
            simp only at h
            split_ifs at h with hb
            exact ⟨b, rfl, .inr ⟨_, _, _, rfl, hb, (Except.error.inj h).symm⟩⟩
  · rintro ⟨rfl, b, rfl, ⟨rfl, rfl⟩ | ⟨o, openedOn, rest, rfl, hb, rfl⟩⟩
    · rw [step_closing]
    · rw [step_closing]
      exact if_neg hb

/-- Reading stops at a character that is a problem after what has been read before it. -/
theorem run_eq_error_iff : run s xs = .error p ↔
    ∃ before c after s', xs = before ++ c :: after ∧ run s before = .ok s' ∧
      step s' c = .error p := by
  constructor
  · intro h
    induction xs generalizing s with
    | nil => contradiction
    | cons c xs ih =>
      rw [run] at h
      cases hstep : step s c with
      | error e =>
        rw [hstep] at h
        exact ⟨[], c, xs, s, rfl, rfl, hstep.trans h⟩
      | ok first =>
        rw [hstep] at h
        obtain ⟨before, d, after, s', rfl, hbefore, hd⟩ := ih h
        exact ⟨c :: before, d, after, s', rfl, (run_cons_of_ok hstep _).trans hbefore, hd⟩
  · rintro ⟨before, c, after, s', rfl, hbefore, hc⟩
    rw [run_append_of_ok hbefore, run, hc]

theorem line_eq_of_run (h : run .start xs = .ok s) : s.line = lineAfter xs := by
  cases reached_of_run h <;> assumption

theorem opened_of_run (h : run .start xs = .ok s) (hmode : s.mode = .plain) :
    Opened xs s.open_ := by
  cases reached_of_run h with
  | plain _ hopened => exact hopened
  | quoted | escaped => contradiction

/-- A character that is a problem is misplaced. -/
theorem misplaced_of_step (h : run .start xs = .ok s) (hb : step s b.closing = .error p) :
    Misplaced xs s.line b where
  viable := viable_iff.2 ⟨s, h⟩
  not_viable hviable := by
    obtain ⟨s', hs'⟩ := viable_iff.1 hviable
    have herror : run .start (xs ++ [b.closing]) = .error p :=
      run_eq_error_iff.2 ⟨xs, b.closing, [], s, rfl, h, hb⟩
    rw [herror] at hs'
    contradiction
  line_eq := line_eq_of_run h

/-- A text that is read up to its end ends in a quoted text, or with a bracket that is open. -/
theorem isFirst_of_finish (h : run .start xs = .ok s) (hp : finish s = .error p) :
    p.IsFirst xs := by
  have hviable : ∀ before, before <+: xs → Viable before := fun _ hbefore =>
    (viable_iff.2 ⟨s, h⟩).before hbefore
  cases reached_of_run h with
  | @plain line opened _ hopened =>
    cases opened with
    | nil => contradiction
    | cons first others =>
      obtain rfl := Except.error.inj hp
      refine ⟨hviable, fun n hquoted => ?_, others, hopened⟩
      obtain ⟨s', hs', hfinish⟩ := run_of_endsQuoted hquoted
      obtain rfl := Except.ok.inj (h.symm.trans hs')
      cases Except.error.inj hfinish
  | quoted _ hstarted hxs hopened hbody =>
    obtain rfl := Except.error.inj hp
    exact ⟨hviable, _, _, _, hxs, hopened, .body hbody, hstarted⟩
  | escaped _ hstarted hxs hopened hbody =>
    obtain rfl := Except.error.inj hp
    exact ⟨hviable, _, _, _, hxs, hopened, .escape hbody, hstarted⟩

variable {text : String}

theorem check_of_run_error (h : run .start text.toList = .error p) : check text = .error p := by
  rw [check, h]

theorem check_of_run_ok (h : run .start text.toList = .ok s) : check text = finish s := by
  rw [check, h]

theorem isFirst_of_check (h : check text = .error p) : p.IsFirst text.toList := by
  cases hrun : run .start text.toList with
  | ok s => exact isFirst_of_finish hrun ((check_of_run_ok hrun).symm.trans h)
  | error e =>
    obtain rfl := Except.error.inj ((check_of_run_error hrun).symm.trans h)
    obtain ⟨before, c, after, s, hxs, hbefore, hstep⟩ := run_eq_error_iff.1 hrun
    obtain ⟨hmode, b, rfl, hopen⟩ := step_eq_error_iff.1 hstep
    have hmisplaced := misplaced_of_step hbefore hstep
    have hopened := opened_of_run hbefore hmode
    obtain ⟨hnil, rfl⟩ | ⟨o, openedOn, rest, hcons, -, rfl⟩ := hopen
    · exact ⟨before, after, hxs, hmisplaced, hnil ▸ hopened⟩
    · exact ⟨before, after, hxs, hmisplaced, rest, hcons ▸ hopened⟩

/-- A closing bracket stops the reader where another one is due, or none. -/
theorem check_of_closing {before after : List Char}
    (hxs : text.toList = before ++ b.closing :: after) (hopened : Opened before opened)
    (hstep : step ⟨lineAfter before, .plain, opened⟩ b.closing = .error p) :
    check text = .error p :=
  check_of_run_error
    (run_eq_error_iff.2 ⟨before, b.closing, after, _, hxs, run_of_opened hopened, hstep⟩)

theorem Misplaced.ne {before : List Char} {line openedOn : Nat} {o : Bracket}
    (h : Misplaced before line b) (hopened : Opened before ((o, openedOn) :: opened)) : o ≠ b := by
  rintro rfl
  refine h.not_viable (viable_iff.2 ⟨⟨lineAfter before, .plain, opened⟩, ?_⟩)
  rw [run_append_of_ok (run_of_opened hopened), run, step_closing]
  simp [run]

theorem check_of_isFirst (h : p.IsFirst text.toList) : check text = .error p := by
  cases p with
  | unexpected line b =>
    obtain ⟨before, after, hxs, hmisplaced, hopened⟩ := h
    refine check_of_closing hxs hopened ?_
    rw [step_closing, hmisplaced.line_eq]
  | mismatch line b o openedOn =>
    obtain ⟨before, after, hxs, hmisplaced, others, hopened⟩ := h
    refine check_of_closing hxs hopened ?_
    rw [step_closing, hmisplaced.line_eq]
    exact if_neg (hmisplaced.ne hopened)
  | unterminated startedOn =>
    obtain ⟨s, hrun, hfinish⟩ := run_of_endsQuoted h.2
    exact (check_of_run_ok hrun).trans hfinish
  | unclosed o openedOn =>
    obtain ⟨-, -, others, hopened⟩ := h
    rw [check_of_run_ok (run_of_opened hopened), finish]

/-- **The problem that is found is the first one, at its place.**  If it names a closing bracket,
this bracket stands at a place up to which the text can be completed and with which it no longer
can; the line is that of the place.  The bracket is unexpected if none is open there; otherwise the
innermost open one is named, with its line.  If the problem names no closing bracket, every
beginning of the text can be completed, and so can the text: then it is the quoted text in which the
text ends, with its line, or else the innermost bracket that is open at the end, with its line.  All
line feeds count, those in quoted texts too.  The message is that of the problem. -/
theorem check_finds_first (text : String) :
    (∀ p, check text = .error p ↔ p.IsFirst text.toList) ∧
    ∀ message, SyntaxCheckKind.delimiters.check text = some message ↔
      ∃ p : Problem, p.IsFirst text.toList ∧ message = p.message := by
  have hfirst : ∀ p, check text = .error p ↔ p.IsFirst text.toList := fun _ =>
    ⟨isFirst_of_check, check_of_isFirst⟩
  refine ⟨hfirst, fun message => ?_⟩
  simp only [← hfirst, SyntaxCheckKind.check]
  cases check text with
  | ok _ => simp
  | error p => simp [eq_comm]

/-- A bracket in a quoted text closes nothing, and a line feed after a backslash counts. -/
example : check "f(\"]\n\\\n\"\n]" = .error (.mismatch 4 .square .round 1) := rfl

end Delimiters

end ToolRelay
