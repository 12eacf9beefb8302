import ToolRelay.Proofs.Json.RoundTrip

/-!
# Going past a value

`Reads.skipValue` : going past a value that is not needed goes exactly to its end, when the value
is plain.  The brackets around it are a stack, so the argument goes by what is due after the value:
`Goes n open_ t u` says that with at least `n` steps the rest `t` is gone through up to `u`.
-/

namespace ToolRelay

namespace Json

namespace Reader

variable {t u : List Char}

/-- After a value inside `open_`, with at least `n` steps to go, everything from `t` to `u` is gone
past. -/
def Goes (n : Nat) (open_ : List Bracket) (t u : List Char) : Prop :=
  ∀ fuel, n ≤ fuel → Reads (skipRest.afterValue fuel open_) t u ()

theorem goes_nil (t : List Char) : Goes 0 [] t t := fun fuel _ => by
  rw [skipRest.afterValue]
  exact .pure ()

theorem Goes.of_cons {n : Nat} {b : Bracket} {open_ : List Bracket}
    (h : ∀ fuel, n ≤ fuel + 1 → Reads (skipRest (fuel + 1) .comma (b :: open_)) t u ())
    (hn : 0 < n) : Goes n (b :: open_) t u := fun fuel hf => by
  obtain ⟨fuel, rfl⟩ := Nat.exists_eq_succ_of_ne_zero (by omega : fuel ≠ 0)
  rw [skipRest.afterValue]
  exact h fuel hf

/-- A value is gone past in at most two steps a character. -/
def Skips (s : List Char) : Prop :=
  ∀ ⦃n : Nat⦄ ⦃open_ : List Bracket⦄ ⦃t u : List Char⦄, Follows t → Goes n open_ t u →
    ∀ fuel, n + 2 * s.length ≤ fuel → Reads (skipRest fuel .value open_) (s ++ t) u ()

/-- What is gone past in one step. -/
theorem skips_of_step {s : List Char} (hs : s ≠ [])
    (h : ∀ (fuel : Nat) (open_ : List Bracket) (t u : List Char), Follows t →
      Reads (skipRest.afterValue fuel open_) t u () →
      Reads (skipRest (fuel + 1) .value open_) (s ++ t) u ()) : Skips s := by
  intro n open_ t u ht hg fuel hf
  have := List.length_pos_of_ne_nil hs
  obtain ⟨fuel, rfl⟩ := Nat.exists_eq_succ_of_ne_zero (by omega : fuel ≠ 0)
  exact h fuel open_ t u ht (hg fuel (by omega))

namespace Reads

theorem skipTextBody_simpleEscape {e x : Char} (h : simpleEscape? e = some x) (i : Nat)
    (s : List Char) : skipTextBody i ('\\' :: e :: s) = skipTextBody (i + 2) s := by
  rw [skipTextBody.eq_def]
  simp [h]

theorem skipTextBody_escape (i : Nat) (c : Char) (s : List Char) :
    ∃ j, skipTextBody i (escape c ++ s) = skipTextBody j s := by
  unfold escape
  split_ifs with h1 h2 h3 h4 h5 h6 h7 h8
  · exact ⟨i + 2, skipTextBody_simpleEscape rfl ..⟩
  · exact ⟨i + 2, skipTextBody_simpleEscape rfl ..⟩
  · exact ⟨i + 2, skipTextBody_simpleEscape rfl ..⟩
  · exact ⟨i + 2, skipTextBody_simpleEscape rfl ..⟩
  · exact ⟨i + 2, skipTextBody_simpleEscape rfl ..⟩
  · exact ⟨i + 2, skipTextBody_simpleEscape rfl ..⟩
  · exact ⟨i + 2, skipTextBody_simpleEscape rfl ..⟩
  · refine ⟨i + 6, ?_⟩
    simp only [List.cons_append, List.nil_append]
    rw [skipTextBody.eq_def]
    simp [simpleEscape?, codeUnit?_hexDigit h8]
  · refine ⟨i + c.utf8Size, ?_⟩
    simp only [List.cons_append, List.nil_append]
    rw [skipTextBody.eq_def]
    simp [h1, h2, h8]

theorem skipText (x : String) : Reads skipText (x.toList.flatMap escape ++ '"' :: t) t () := by
  intro i
  have hbody : ∀ (cs : List Char) (i : Nat),
      ∃ j, skipTextBody i (cs.flatMap escape ++ '"' :: t) = .ok () ⟨j, t⟩ := fun cs => by
    induction cs with
    | nil =>
      intro i
      refine ⟨i + 1, ?_⟩
      rw [List.flatMap_nil, List.nil_append, skipTextBody.eq_def]
      simp
    | cons c cs ih =>
      intro i
      obtain ⟨j, hj⟩ := skipTextBody_escape i c (cs.flatMap escape ++ '"' :: t)
      rw [List.flatMap_cons, List.append_assoc, hj]
      exact ih j
  exact hbody _ i

theorem skipName (k : String) : Reads skipName (quoteChars k ++ ':' :: t) t () := by
  rw [quoteChars_append]
  exact peekFull_bind rfl (advance.bind ((skipText k).bind (peekFull_bind rfl advance)))

theorem skipFraction (ht : Follows t) : Reads skipNumber.skipFraction t t () := by
  refine peek.bind ?_
  split
  · rename_i h; exact absurd rfl (ht _ h).2.1
  · rename_i h; exact absurd rfl (ht _ h).2.2.1
  · rename_i h; exact absurd rfl (ht _ h).2.2.2
  · exact .pure ()

theorem skipNumber (n : Nat) (ht : Follows t) :
    Reads skipNumber (Nat.toDigits 10 n ++ t) t () := by
  have ht' : ∀ c ∈ t.head?, isDigit c = false := fun c hc => (ht c hc).1
  obtain rfl | hpos := Nat.eq_zero_or_pos n
  · rw [Nat.toDigits_zero]
    refine next.bind (peek.bind ?_)
    split
    · rename_i c hc
      rw [if_neg (by simp [ht' c hc])]
      exact skipFraction ht
    · exact skipFraction ht
  · have hd : ∀ c ∈ Nat.toDigits 10 n, isDigit c = true := fun c => isDigit_of_mem_toDigits
    obtain ⟨c, cs, hc, h0⟩ := toDigits_eq_cons hpos
    rw [hc] at hd ⊢
    refine next.bind ?_
    split
    · rename_i h; exact absurd (Option.some.inj h) h0
    · rename_i d _ h
      obtain rfl := Option.some.inj h
      rw [if_pos (hd c (List.mem_cons_self ..))]
      refine (digits (fun d hd' => hd d (List.mem_cons_of_mem _ hd')) ht').bind ?_
      exact skipFraction ht
    · contradiction

/-! ### Arrays and objects -/

theorem goes_items {js : List Json} (h : ∀ j ∈ js, Skips (compactChars j)) {n : Nat}
    {open_ : List Bracket} (hg : Goes n open_ t u) :
    Goes (n + 2 * (compactItems false js).length) (.array :: open_)
      (compactItems false js ++ t) u := by
  have hpos := length_lt_compactItems js
  refine .of_cons (fun fuel hf => ?_) (by omega)
  -- the items one by one, each with what is due after it
  induction js generalizing fuel with
  | nil =>
    rw [compactItems] at hf ⊢
    rw [skipRest]
    exact peekFull_bind rfl (advance_bind (hg fuel (by simp at hf; omega)))
  | cons j js ih =>
    have hs := h j (List.mem_cons_self ..)
    have hpos' := length_lt_compactItems js
    have hrest := Goes.of_cons (ih (fun j hj => h j (List.mem_cons_of_mem _ hj)) hpos') (by omega)
    simp only [compactItems, Bool.false_eq_true, ↓reduceIte, List.length_append, List.length_cons,
      List.append_assoc, List.cons_append, List.nil_append] at hf ⊢
    rw [skipRest]
    exact peekFull_bind rfl (advance_bind (hs (follows_compactItems js) hrest fuel (by omega)))

theorem first_items {js : List Json} (h : ∀ j ∈ js, Skips (compactChars j))
    (ho : ∀ j ∈ js, ∃ c cs, compactChars j = c :: cs ∧ Opens c) {n : Nat}
    {open_ : List Bracket} (hg : Goes n open_ t u) (fuel : Nat)
    (hf : n + 2 * (compactItems true js).length ≤ fuel) :
    Reads (skipRest (fuel + 1) .first (.array :: open_)) (compactItems true js ++ t) u () := by
  rw [skipRest]
  cases js with
  | nil =>
    rw [compactItems]
    exact peekFull_bind rfl (advance_bind (hg fuel (by omega)))
  | cons j js =>
    obtain ⟨c, cs, hc, ho⟩ := ho j (List.mem_cons_self ..)
    have hrest := goes_items (fun j hj => h j (List.mem_cons_of_mem _ hj)) hg
    simp only [compactItems, ↓reduceIte, List.nil_append, List.length_append,
      List.append_assoc] at hf ⊢
    have hs := h j (List.mem_cons_self ..) (follows_compactItems js) hrest fuel (by omega)
    rw [hc] at hs ⊢
    refine peekFull_bind ho.1 ?_
    split
    · contradiction
    · contradiction
    · rename_i hx; exact absurd (Option.some.inj hx) ho.2.1
    · contradiction
    · exact hs
    · contradiction

theorem goes_members {ms : List (String × Json)} (h : ∀ m ∈ ms, Skips (compactChars m.2)) {n : Nat}
    {open_ : List Bracket} (hg : Goes n open_ t u) :
    Goes (n + 2 * (compactMembers false ms).length) (.object :: open_)
      (compactMembers false ms ++ t) u := by
  have hpos := length_lt_compactMembers ms
  refine .of_cons (fun fuel hf => ?_) (by omega)
  induction ms generalizing fuel with
  | nil =>
    rw [compactMembers] at hf ⊢
    rw [skipRest]
    exact peekFull_bind rfl (advance_bind (hg fuel (by simp at hf; omega)))
  | cons m ms ih =>
    have hs := h m (List.mem_cons_self ..)
    have hpos' := length_lt_compactMembers ms
    have hrest := Goes.of_cons (ih (fun m hm => h m (List.mem_cons_of_mem _ hm)) hpos') (by omega)
    simp only [compactMembers, Bool.false_eq_true, ↓reduceIte, List.length_append,
      List.length_cons, List.append_assoc, List.cons_append, List.nil_append] at hf ⊢
    rw [skipRest]
    refine peekFull_bind rfl (advance_bind ((skipName m.1).bind ?_))
    exact hs (follows_compactMembers ms) hrest fuel (by omega)

theorem first_members {ms : List (String × Json)} (h : ∀ m ∈ ms, Skips (compactChars m.2))
    {n : Nat} {open_ : List Bracket} (hg : Goes n open_ t u) (fuel : Nat)
    (hf : n + 2 * (compactMembers true ms).length ≤ fuel) :
    Reads (skipRest (fuel + 1) .first (.object :: open_)) (compactMembers true ms ++ t) u () := by
  rw [skipRest]
  cases ms with
  | nil =>
    rw [compactMembers]
    exact peekFull_bind rfl (advance_bind (hg fuel (by omega)))
  | cons m ms =>
    have hrest := goes_members (fun m hm => h m (List.mem_cons_of_mem _ hm)) hg
    simp only [compactMembers, ↓reduceIte, List.nil_append, List.length_append, List.length_cons,
      List.append_assoc, List.cons_append] at hf ⊢
    have hs := h m (List.mem_cons_self ..) (follows_compactMembers ms) hrest fuel (by omega)
    exact peekFull_bind rfl ((skipName m.1).bind hs)

end Reads

end Reader

open Reader

theorem skips_of_isDigit {n : Nat} : Skips (Nat.toDigits 10 n) := by
  refine skips_of_step Nat.toDigits_ne_nil fun fuel open_ t u ht hg => ?_
  obtain ⟨c, cs, hc, hd⟩ := toDigits_head n
  have hne : ∀ x, isDigit x = false → some c ≠ some x := fun _ => some_ne_of_test hd
  have hr := Reads.skipNumber n ht
  rw [hc] at hr ⊢
  rw [skipRest]
  refine .peekFull_bind (opens_of_isDigit hd).1.1 ?_
  split
  · contradiction
  · exact absurd ‹_› (hne 'n' rfl)
  · exact absurd ‹_› (hne 't' rfl)
  · exact absurd ‹_› (hne 'f' rfl)
  · exact absurd ‹_› (hne '-' rfl)
  · exact absurd ‹_› (hne '"' rfl)
  · exact absurd ‹_› (hne '[' rfl)
  · exact absurd ‹_› (hne '\x7b' rfl)
  · rename_i x _ _ _ _ _ _ _ hx
    rw [← Option.some.inj hx, if_pos hd]
    exact hr.bind hg

theorem Plain.skips {d : Nat} {j : Json} (h : Plain d j) : Skips (compactChars j) := by
  induction h with
  | null =>
    refine skips_of_step (by simp [compactChars]) fun fuel open_ t u _ hg => ?_
    rw [skipRest, compactChars]
    exact .peekFull_bind rfl (.advance_bind ((Reads.word _).bind hg))
  | bool b =>
    refine skips_of_step (by cases b <;> simp [compactChars]) fun fuel open_ t u _ hg => ?_
    rw [skipRest]
    cases b <;> rw [compactChars] <;>
      exact .peekFull_bind rfl (.advance_bind ((Reads.word _).bind hg))
  | @int d n _ _ =>
    rw [compactChars, toList_toString_int]
    split
    · exact skips_of_isDigit
    · refine skips_of_step (by simp) fun fuel open_ t u ht hg => ?_
      rw [skipRest]
      exact .peekFull_bind rfl (.advance_bind ((Reads.skipNumber n.natAbs ht).bind hg))
  | text s =>
    refine skips_of_step (by simp [compactChars, quoteChars]) fun fuel open_ t u _ hg => ?_
    rw [skipRest, compactChars, Reads.quoteChars_append]
    exact .peekFull_bind rfl (.advance_bind ((Reads.skipText s).bind hg))
  | @array d items h ih =>
    intro n open_ t u _ hg fuel hf
    simp only [compactChars, List.length_cons] at hf ⊢
    obtain ⟨fuel, rfl⟩ : ∃ f, fuel = f + 2 := ⟨fuel - 2, by omega⟩
    rw [skipRest]
    refine .peekFull_bind rfl (.advance_bind (Reads.first_items ih (fun j hj => ?_) hg fuel ?_))
    · obtain ⟨c, cs, hc, ho, -⟩ := (h j hj).exists_head
      exact ⟨c, cs, hc, ho⟩
    · omega
  | @object d members hn h ih =>
    intro n open_ t u _ hg fuel hf
    simp only [compactChars, List.length_cons] at hf ⊢
    obtain ⟨fuel, rfl⟩ : ∃ f, fuel = f + 2 := ⟨fuel - 2, by omega⟩
    rw [skipRest]
    exact .peekFull_bind rfl (.advance_bind (Reads.first_members ih hg fuel (by omega)))

/-- Going past a plain value goes to its end. -/
theorem Plain.reads_skipValue {d : Nat} {j : Json} (h : Plain d j) {t : List Char}
    (ht : Follows t) : Reads skipValue (compactChars j ++ t) t () := by
  refine Reads.room.bind (h.skips ht (goes_nil t) _ ?_)
  simp only [List.length_append]
  omega

end Json

end ToolRelay
