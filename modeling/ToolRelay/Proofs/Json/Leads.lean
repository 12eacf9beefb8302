import Mathlib.Data.List.Nodup
import ToolRelay.Proofs.Json.Numerals
import ToolRelay.Proofs.Json.Skip

/-!
# Reading texts whose numbers are integers

`Leads pre r post` says of a reader `r` that where `pre` holds of what lies ahead, whatever `r`
gives and leaves ahead satisfies `post`.  What is kept on the way through a text is that all its
number literals spell integers (`Keeps`): between values outside of quotes, and between the quotes
of a text.

* `Json.Reader.keeps_value` : a value that is read in such a text is plain, so without a
  floating-point number;
* `Json.Reader.leads_skipValue` : going past a value leads to such a text again.
-/

namespace ToolRelay

namespace Json

namespace Reader

variable {α β : Type} {c : Char} {s : List Char}

/-- Where `pre` holds of what lies ahead, whatever `r` gives and leaves ahead satisfies `post`. -/
def Leads (pre : List Char → Prop) (r : Reader α) (post : α → List Char → Prop) : Prop :=
  ∀ c a c', pre c.rest → r c = .ok a c' → post a c'.rest

/-- In a text whose numbers are integers, whatever `r` gives satisfies `P`, and such a text lies
ahead again. -/
def Keeps (r : Reader α) (P : α → Prop) : Prop :=
  Leads (IntegralFrom .outside) r fun a s => P a ∧ IntegralFrom .outside s

namespace Leads

variable {pre mid : List Char → Prop} {post : α → List Char → Prop} {P : α → Prop}

theorem mono {pre' : List Char → Prop} {r : Reader α} (h : Leads pre r post)
    (hpre : ∀ s, pre' s → pre s) : Leads pre' r post := fun c a c' hc ha => h c a c' (hpre _ hc) ha

theorem pure {a : α} (h : ∀ s, pre s → post a s) : Leads pre (Pure.pure a) post := by
  rintro c _ _ hc ⟨⟩
  exact h _ hc

theorem bind {r : Reader α} {f : α → Reader β} {between : α → List Char → Prop}
    {post : β → List Char → Prop} (h : Leads pre r between)
    (h' : ∀ a, Leads (between a) (f a) post) : Leads pre (r >>= f) post := by
  intro c b c'' hc hb
  obtain ⟨a, c', ha, hb⟩ := bind_eq_ok hb
  exact h' a c' b c'' (h c a c' hc ha) hb

theorem of_gives {r : Reader α} (h : Gives r fun _ => False) : Leads pre r post :=
  fun c a c' _ ha => (h c a c' ha).elim

theorem failHere (complaint : Complaint) : Leads pre (failHere complaint) post :=
  of_gives (.failHere _)

theorem failAhead (complaint : Complaint) : Leads pre (failAhead complaint) post :=
  of_gives (.failAhead _)

theorem failAhead_bind {f : α → Reader β} {post : β → List Char → Prop} (complaint : Complaint) :
    Leads pre (Reader.failAhead complaint >>= f) post :=
  of_gives (.bind (.failAhead complaint) fun _ (h : False) => h.elim)

theorem failUnplaced (complaint : Complaint) : Leads pre (failUnplaced complaint) post :=
  of_gives (.failUnplaced _)

theorem placed {r : Reader α} (h : Leads pre r post) : Leads pre (placed r) post :=
  fun c a c' hc ha => h c a c' hc (placed_eq_ok ha)

theorem room : Leads pre room fun _ => pre := by
  rintro c _ _ hc ⟨⟩
  exact hc

end Leads

/-! ### One step after another -/

namespace Leads

variable {post : α → List Char → Prop}

/-- What lies ahead after the blanks begins with the character that is seen. -/
theorem peekFull :
    Leads (IntegralFrom .outside) peekFull fun x s => IntegralFrom .outside s ∧ s.head? = x := by
  intro c x c' hc hx
  have hblank : ∀ d ∈ c.rest.takeWhile isBlank, Passes d := by
    intro d hd
    have hb : isBlank d = true := List.all_eq_true.1 List.all_takeWhile d hd
    simp only [isBlank, Bool.or_eq_true, beq_iff_eq] at hb
    obtain ((rfl | rfl) | rfl) | rfl := hb <;> decide
  have hrest := numeralsFrom_append_of_passes (t := c.rest.dropWhile isBlank) hblank
  rw [List.takeWhile_append_dropWhile] at hrest
  rw [peekFull_eq] at hx
  cases hx
  exact ⟨fun numeral hn => hc numeral (hrest ▸ hn), rfl⟩

theorem skipBlanks :
    Leads (IntegralFrom .outside) skipBlanks fun _ s => IntegralFrom .outside s := by
  rintro c _ _ hc ⟨⟩
  exact (peekFull c _ _ hc rfl).1

theorem peekFull_bind {f : Option Char → Reader α}
    (h : ∀ x, Leads (fun s => IntegralFrom .outside s ∧ s.head? = x) (f x) post) :
    Leads (IntegralFrom .outside) (Reader.peekFull >>= f) post := peekFull.bind h

/-- Going past a character without a meaning for numbers. -/
theorem advance (h : Passes c) :
    Leads (fun s => IntegralFrom .outside s ∧ s.head? = some c) advance
      fun _ s => IntegralFrom .outside s := by
  rintro ⟨i, s⟩ _ c' ⟨hs, hc⟩ ha
  obtain ⟨s, rfl⟩ := List.head?_eq_some_iff.1 hc
  cases ha
  rw [IntegralFrom, numeralsFrom_cons_of_passes h] at hs
  exact hs

theorem advance_bind {f : Unit → Reader α} (h : Passes c)
    (hf : Leads (IntegralFrom .outside) (f ()) post) :
    Leads (fun s => IntegralFrom .outside s ∧ s.head? = some c) (Reader.advance >>= f) post :=
  (advance h).bind fun _ => hf

/-- Going past an opening quote. -/
theorem quote_bind {f : Unit → Reader α} (hf : Leads (IntegralFrom .quoted) (f ()) post) :
    Leads (fun s => IntegralFrom .outside s ∧ s.head? = some '"') (Reader.advance >>= f) post := by
  refine .bind ?_ fun _ => hf
  rintro ⟨i, s⟩ _ c' ⟨hs, hc⟩ ha
  obtain ⟨s, rfl⟩ := List.head?_eq_some_iff.1 hc
  cases ha
  exact hs

theorem text : Leads (IntegralFrom .quoted) text fun _ s => IntegralFrom .outside s := by
  intro c x c' hc hx
  rw [IntegralFrom, numeralsFrom_of_textBody hx] at hc
  exact hc

theorem skipText : Leads (IntegralFrom .quoted) skipText fun _ s => IntegralFrom .outside s := by
  intro c x c' hc hx
  rw [IntegralFrom, numeralsFrom_of_skipTextBody hx] at hc
  exact hc

theorem word {cs : List Char} (h : cs.all (Passes ·) = true) :
    Leads (IntegralFrom .outside) (word cs) fun _ s => IntegralFrom .outside s := by
  induction cs with
  | nil => exact .pure fun _ hs => hs
  | cons x xs ih =>
    rw [List.all_cons, Bool.and_eq_true, decide_eq_true_eq] at h
    obtain ⟨hx, hxs⟩ := h
    rintro ⟨i, s⟩ u c' hs hw
    cases s with
    | nil => contradiction
    | cons y s =>
      obtain ⟨_, c'', ⟨⟩, hrest⟩ := bind_eq_ok hw
      dsimp only at hrest
      split_ifs at hrest with hyx
      · subst hyx
        rw [IntegralFrom, numeralsFrom_cons_of_passes hx] at hs
        exact ih hxs ⟨_, s⟩ u c' hs hrest
      · contradiction

/-- Going past a word by its first character. -/
theorem word_bind {cs : List Char} {f : Unit → Reader α} (h : (c :: cs).all (Passes ·) = true)
    (hf : Leads (IntegralFrom .outside) (f ()) post) :
    Leads (fun s => IntegralFrom .outside s ∧ s.head? = some c)
      (Reader.advance >>= fun _ => Reader.word cs >>= f) post := by
  rw [List.all_cons, Bool.and_eq_true, decide_eq_true_eq] at h
  exact .advance_bind h.1 (.bind (word h.2) fun _ => hf)

theorem closedBy {pre : List Char → Prop} {between : α → List Char → Prop} {inner : Reader α}
    {closing : Reader Unit} (h : Leads pre inner between)
    (h' : ∀ a, Leads (between a) closing fun _ => post a) :
    Leads pre (closedBy inner closing) post := by
  intro c a c' hc ha
  rw [Reader.closedBy] at ha
  cases hi : inner c with
  | error e c' =>
    rw [hi] at ha
    simp only at ha
    split at ha <;> contradiction
  | ok b c'' =>
    rw [hi] at ha
    simp only at ha
    split at ha
    · rename_i hclose
      obtain ⟨rfl, rfl⟩ := EStateM.Result.ok.inj ha
      exact h' _ _ _ _ (h c _ _ hc hi) hclose
    · contradiction

/-- What has been seen ahead need not be known any more. -/
theorem forget {x : Option Char} {r : Reader α} (h : Leads (IntegralFrom .outside) r post) :
    Leads (fun s => IntegralFrom .outside s ∧ s.head? = x) r post := h.mono fun _ => And.left

/-! ### The frame of arrays and objects -/

theorem hasItem (first : Bool) :
    Leads (IntegralFrom .outside) (hasItem first) fun _ s => IntegralFrom .outside s := by
  refine .peekFull_bind fun x => ?_
  split
  · exact .failAhead _
  · exact .pure fun _ => And.left
  · rename_i c _
    split_ifs with _ hc
    · exact .pure fun _ => And.left
    · subst hc
      refine .advance_bind (by decide) (.peekFull_bind fun y => ?_)
      split
      · exact .failAhead _
      · exact .failAhead _
      · exact .pure fun _ => And.left
    · exact .failAhead _

/-- Where a member follows, its name opens ahead. -/
theorem hasMember (first : Bool) :
    Leads (IntegralFrom .outside) (hasMember first) fun more s =>
      IntegralFrom .outside s ∧ (more = true → s.head? = some '"') := by
  refine .peekFull_bind fun x => ?_
  split
  · exact .failAhead _
  · exact .pure fun _ h => ⟨h.1, nofun⟩
  · rename_i c _
    split_ifs with _ hq hc
    · subst hq
      exact .pure fun _ h => ⟨h.1, fun _ => h.2⟩
    · exact .failAhead _
    · subst hc
      refine .advance_bind (by decide) (.peekFull_bind fun y => ?_)
      split
      · exact .failAhead _
      · exact .pure fun _ h => ⟨h.1, fun _ => h.2⟩
      · exact .failAhead _
      · exact .failAhead _
    · exact .failAhead _

theorem endArray :
    Leads (IntegralFrom .outside) endArray fun _ s => IntegralFrom .outside s := by
  refine .peekFull_bind fun x => ?_
  split
  · exact .failAhead _
  · exact .advance (by decide)
  · refine .advance_bind (by decide) (.peekFull_bind fun y => ?_)
    split <;> exact .failAhead _
  · exact .failAhead _

theorem endObject :
    Leads (IntegralFrom .outside) endObject fun _ s => IntegralFrom .outside s := by
  refine .peekFull_bind fun x => ?_
  split
  · exact .failAhead _
  · exact .advance (by decide)
  · exact .failAhead _
  · exact .failAhead _

theorem colon : Leads (IntegralFrom .outside) colon fun _ s => IntegralFrom .outside s := by
  refine .peekFull_bind fun x => ?_
  split
  · exact .failAhead _
  · exact .advance (by decide)
  · exact .failAhead _

variable {P : α → Prop}

theorem inArray {inner : Reader α} (h : Keeps inner P) :
    Leads (fun s => IntegralFrom .outside s ∧ s.head? = some '[') (inArray inner)
      fun a s => P a ∧ IntegralFrom .outside s :=
  .advance_bind (by decide) (.closedBy h fun _ c _ c' hc hb =>
    ⟨hc.1, Leads.endArray c _ c' hc.2 hb⟩)

theorem inObject {inner : Reader α} (h : Keeps inner P) :
    Leads (fun s => IntegralFrom .outside s ∧ s.head? = some '\x7b') (inObject inner)
      fun a s => P a ∧ IntegralFrom .outside s :=
  .advance_bind (by decide) (.closedBy h fun _ c _ c' hc hb =>
    ⟨hc.1, Leads.endObject c _ c' hc.2 hb⟩)

end Leads

namespace Keeps

variable {P : α → Prop}

theorem pure {a : α} (h : P a) : Keeps (Pure.pure a) P := Leads.pure fun _ hs => ⟨h, hs⟩

theorem andThen {r : Reader α} {f : α → Reader β} {post : β → List Char → Prop} (h : Keeps r P)
    (h' : ∀ a, P a → Leads (IntegralFrom .outside) (f a) post) :
    Leads (IntegralFrom .outside) (r >>= f) post :=
  Leads.bind h fun a c b c' hc hb => h' a hc.1 c b c' hc.2 hb

theorem items {item : Reader α} (h : Keeps item P) {fuel : Nat} {done : List α}
    (hd : ∀ a ∈ done, P a) : Keeps (items item fuel done) (fun as => ∀ a ∈ as, P a) := by
  induction fuel generalizing done with
  | zero => exact Leads.failHere _
  | succ fuel ih =>
    refine .bind (.hasItem _) fun more => ?_
    split
    · exact h.andThen fun a ha => ih (List.forall_mem_cons.2 ⟨ha, hd⟩)
    · exact pure fun a ha => hd a (List.mem_reverse.1 ha)

theorem members {member : String → α → Reader α} (h : ∀ name a, P a → Keeps (member name a) P)
    {fuel : Nat} {first : Bool} {a : α} (ha : P a) : Keeps (members member fuel first a) P := by
  induction fuel generalizing first a with
  | zero => exact Leads.failHere _
  | succ fuel ih =>
    refine .bind (.hasMember first) fun more => ?_
    cases more with
    | true =>
      refine Leads.mono (.quote_bind ?_) fun s hs => ⟨hs.1, hs.2 rfl⟩
      exact .bind .text fun name => (h name a ha).andThen fun b hb => ih hb
    | false => exact Leads.pure fun s hs => ⟨ha, hs.1⟩

end Keeps

/-! ### Numbers -/

/-- An integer that a reader can tell. -/
def IsInt (j : Json) : Prop := ∃ n : Int, -0x8000000000000000 ≤ n ∧ n ≤ maxInt ∧ j = .int n

/-- What spells an integer, by its sign. -/
theorem toList_toString_int_cases {n : Int} {u : List Char}
    (h : c :: s = (toString n).toList ++ u) :
    (c = '-' ∧ ¬0 ≤ n ∧ s = Nat.toDigits 10 n.natAbs ++ u) ∨
      (isDigit c = true ∧ 0 ≤ n ∧ c :: s = Nat.toDigits 10 n.natAbs ++ u) := by
  rw [toList_toString_int] at h
  split_ifs at h with hn
  · obtain ⟨d, ds, hd, hdigit⟩ := toDigits_head n.natAbs
    have hdc := h
    rw [hd, List.cons_append] at hdc
    exact .inr ⟨(List.cons.inj hdc).1 ▸ hdigit, hn, h⟩
  · obtain ⟨rfl, hs⟩ := List.cons.inj h
    exact .inl ⟨rfl, hn, hs⟩

namespace Leads

/-- A reader that takes exactly the digits of an integer leads behind them. -/
theorem of_reads_digits {r : Reader α} {P : α → Prop}
    (h : ∀ (n : Int) (t : List Char), n ≤ maxInt → 0 ≤ n → Follows t →
      ∃ a, P a ∧ Reads r (Nat.toDigits 10 n.natAbs ++ t) t a) (hd : isDigit c = true) :
    Leads (fun s => IntegralFrom .outside s ∧ s.head? = some c) r
      fun a s => P a ∧ IntegralFrom .outside s := by
  rintro ⟨i, s⟩ a c' ⟨hs, hc⟩ ha
  obtain ⟨s, rfl⟩ := List.head?_eq_some_iff.1 hc
  obtain ⟨n, t, lo, hi, hn, ht, hrest⟩ := hs.exists_int (by simp [beginsNumber, hd])
  obtain ⟨rfl, -, -⟩ | ⟨-, hpos, hds⟩ := toList_toString_int_cases hn
  · contradiction
  · obtain ⟨b, hb, hr⟩ := h n t hi hpos ht
    obtain ⟨j, hj⟩ := hr i
    rw [hds, hj] at ha
    cases ha
    exact ⟨hb, hrest⟩

/-- The same behind a sign. -/
theorem of_reads_sign {r : Reader α} {P : α → Prop}
    (h : ∀ (n : Int) (t : List Char), -0x8000000000000000 ≤ n → ¬0 ≤ n → Follows t →
      ∃ a, P a ∧ Reads r (Nat.toDigits 10 n.natAbs ++ t) t a) :
    Leads (fun s => IntegralFrom .outside ('-' :: s)) r
      fun a s => P a ∧ IntegralFrom .outside s := by
  rintro ⟨i, s⟩ a c' hs ha
  obtain ⟨n, t, lo, hi, hn, ht, hrest⟩ := hs.exists_int rfl
  obtain ⟨-, hneg, hds⟩ | ⟨hd, -, -⟩ := toList_toString_int_cases hn
  · obtain ⟨b, hb, hr⟩ := h n t lo hneg ht
    obtain ⟨j, hj⟩ := hr i
    dsimp only at ha hds
    rw [hds, hj] at ha
    cases ha
    exact ⟨hb, hrest⟩
  · contradiction

/-- Going past a sign. -/
theorem sign_bind {f : Unit → Reader α} {post : α → List Char → Prop}
    (hf : Leads (fun s => IntegralFrom .outside ('-' :: s)) (f ()) post) :
    Leads (fun s => IntegralFrom .outside s ∧ s.head? = some '-') (Reader.advance >>= f) post := by
  refine .bind ?_ fun _ => hf
  rintro ⟨i, s⟩ _ c' ⟨hs, hc⟩ ha
  obtain ⟨s, rfl⟩ := List.head?_eq_some_iff.1 hc
  cases ha
  exact hs

theorem number_false (hd : isDigit c = true) :
    Leads (fun s => IntegralFrom .outside s ∧ s.head? = some c) (number false)
      fun j s => IsInt j ∧ IntegralFrom .outside s :=
  of_reads_digits (fun n _ hi hn ht => ⟨.int n, ⟨n, by omega, hi, rfl⟩, .int_of_nonneg hi hn ht⟩) hd

theorem number_true :
    Leads (fun s => IntegralFrom .outside ('-' :: s)) (number true)
      fun j s => IsInt j ∧ IntegralFrom .outside s :=
  of_reads_sign fun n _ lo hn ht =>
    ⟨.int n, ⟨n, lo, by unfold maxInt; omega, rfl⟩, .int_of_neg lo hn ht⟩

theorem skipNumber_digits (hd : isDigit c = true) :
    Leads (fun s => IntegralFrom .outside s ∧ s.head? = some c) skipNumber
      fun _ s => IntegralFrom .outside s :=
  fun cur a c' hc ha => (of_reads_digits (P := fun _ => True)
    (fun n _ _ _ ht => ⟨(), trivial, .skipNumber n.natAbs ht⟩) hd cur a c' hc ha).2

theorem skipNumber_sign :
    Leads (fun s => IntegralFrom .outside ('-' :: s)) skipNumber
      fun _ s => IntegralFrom .outside s :=
  fun cur a c' hc ha => (of_reads_sign (P := fun _ => True)
    (fun n _ _ _ ht => ⟨(), trivial, .skipNumber n.natAbs ht⟩) cur a c' hc ha).2

end Leads

/-! ### Any value -/

/-- Members with distinct names, each with a plain value. -/
def PlainMembers (d : Nat) (ms : List (String × Json)) : Prop :=
  (ms.map (·.1)).Nodup ∧ ∀ m ∈ ms, Plain d m.2

theorem map_fst_put (k : String) (v : Json) (ms : List (String × Json)) :
    (put k v ms).map (·.1) = if k ∈ ms.map (·.1) then ms.map (·.1) else ms.map (·.1) ++ [k] := by
  induction ms with
  | nil => rfl
  | cons m ms ih =>
    obtain ⟨k', v'⟩ := m
    rw [put]
    by_cases hk : k' = k
    · subst hk
      simp
    · rw [if_neg hk, List.map_cons, ih]
      by_cases hmem : k ∈ ms.map (·.1)
      · simp [hmem]
      · simp only [hmem, if_false, List.map_cons, List.mem_cons, Ne.symm hk, or_self,
          List.cons_append]

theorem mem_put {k : String} {v : Json} {ms : List (String × Json)} {m : String × Json}
    (h : m ∈ put k v ms) : m ∈ ms ∨ m.2 = v := by
  induction ms with
  | nil =>
    rw [put, List.mem_singleton] at h
    exact .inr (by rw [h])
  | cons old ms ih =>
    obtain ⟨k', v'⟩ := old
    rw [put] at h
    split_ifs at h with hk
    · obtain rfl | h := List.mem_cons.1 h
      · exact .inr rfl
      · exact .inl (List.mem_cons_of_mem _ h)
    · obtain rfl | h := List.mem_cons.1 h
      · exact .inl (List.mem_cons_self ..)
      · exact (ih h).imp_left (List.mem_cons_of_mem _)

theorem PlainMembers.put {d : Nat} {k : String} {v : Json} {ms : List (String × Json)}
    (h : PlainMembers d ms) (hv : Plain d v) : PlainMembers d (put k v ms) := by
  refine ⟨?_, fun m hm => ?_⟩
  · rw [map_fst_put]
    split_ifs with hk
    · exact h.1
    · rw [← List.concat_eq_append]
      exact List.Nodup.concat hk h.1
  · obtain hm | rfl := mem_put hm
    · exact h.2 m hm
    · exact hv

/-- **A value that is read is plain.** -/
theorem keeps_value (d : Nat) : Keeps (value d) (Plain d) := by
  induction d with
  | zero => exact Leads.failAhead _
  | succ d ih =>
    have hint {j : Json} (h : IsInt j) : Plain (d + 1) j := by
      obtain ⟨n, lo, hi, rfl⟩ := h
      exact .int lo hi
    rw [value]
    refine .placed (.peekFull_bind fun x => ?_)
    split
    · exact .failAhead _
    · exact .word_bind (by decide) (Keeps.pure .null)
    · exact .word_bind (by decide) (Keeps.pure (.bool _))
    · exact .word_bind (by decide) (Keeps.pure (.bool _))
    · exact .sign_bind fun c j c' hc hj => (Leads.number_true c j c' hc hj).imp_left hint
    · exact .quote_bind (.bind .text fun s => Keeps.pure (.text s))
    · split_ifs with hd
      · exact .failAhead _
      · obtain ⟨d, rfl⟩ := Nat.exists_eq_succ_of_ne_zero hd
        exact .inArray (.bind .room fun n => Keeps.andThen (.items ih (List.forall_mem_nil _))
          fun js hjs => Keeps.pure (.array hjs))
    · split_ifs with hd
      · exact .failAhead _
      · obtain ⟨d, rfl⟩ := Nat.exists_eq_succ_of_ne_zero hd
        have hmember (name : String) (done : List (String × Json)) (h : PlainMembers (d + 1) done) :
            Keeps (do colon; return put name (← value (d + 1)) done) (PlainMembers (d + 1)) :=
          .bind .colon fun _ => ih.andThen fun j hj => Keeps.pure (h.put hj)
        have hempty : PlainMembers (d + 1) [] := ⟨.nil, List.forall_mem_nil _⟩
        exact .inObject (.bind .room fun n => Keeps.andThen (.members hmember hempty)
          fun ms hms => Keeps.pure (.object hms.1 hms.2))
    · split_ifs with hd
      · exact fun c j c' hc hj => (Leads.number_false hd c j c' hc hj).imp_left hint
      · exact .failAhead _

/-! ### A value that is not needed -/

theorem leads_skipName :
    Leads (IntegralFrom .outside) skipName fun _ s => IntegralFrom .outside s := by
  refine .peekFull_bind fun x => ?_
  split
  · exact .failAhead_bind _
  · exact .quote_bind (.bind .skipText fun _ => .colon)
  · exact .failAhead_bind _

/-- In a text whose numbers are integers, going past a value leads behind it. -/
theorem leads_skipRest (fuel : Nat) (due : Due) (open_ : List Bracket) :
    Leads (IntegralFrom .outside) (skipRest fuel due open_) fun _ s => IntegralFrom .outside s := by
  induction fuel generalizing due open_ with
  | zero =>
    rw [skipRest]
    exact .failHere _
  | succ fuel ih =>
    have hafter (open_ : List Bracket) : Leads (IntegralFrom .outside)
        (skipRest.afterValue fuel open_) fun _ s => IntegralFrom .outside s := by
      rw [skipRest.afterValue]
      split_ifs
      · exact .pure fun _ hs => hs
      · exact ih .comma open_
    cases due with
    | value =>
      rw [skipRest]
      refine .peekFull_bind fun x => ?_
      split
      · exact .failAhead _
      · exact .word_bind (by decide) (hafter open_)
      · exact .word_bind (by decide) (hafter open_)
      · exact .word_bind (by decide) (hafter open_)
      · exact .sign_bind (.bind .skipNumber_sign fun _ => hafter open_)
      · exact .quote_bind (.bind .skipText fun _ => hafter open_)
      · exact .advance_bind (by decide) (ih .first _)
      · exact .advance_bind (by decide) (ih .first _)
      · split_ifs with hd
        · exact .bind (.skipNumber_digits hd) fun _ => hafter open_
        · exact .failAhead _
    | first =>
      cases open_ with
      | nil =>
        rw [skipRest]
        exact .pure fun _ hs => hs
      | cons b open_ =>
        rw [skipRest]
        refine .peekFull_bind fun x => ?_
        split
        · exact .failAhead _
        · exact .failAhead _
        · exact .advance_bind (by decide) (hafter open_)
        · exact .advance_bind (by decide) (hafter open_)
        · exact .forget (ih .value _)
        · exact .forget (.bind leads_skipName fun _ => ih .value _)
    | comma =>
      cases open_ with
      | nil =>
        rw [skipRest]
        exact .pure fun _ hs => hs
      | cons b open_ =>
        rw [skipRest]
        refine .peekFull_bind fun x => ?_
        split
        · exact .failAhead _
        · exact .failAhead _
        · exact .advance_bind (by decide) (hafter open_)
        · exact .advance_bind (by decide) (hafter open_)
        · exact .advance_bind (by decide) (ih .value _)
        · exact .advance_bind (by decide) (.bind leads_skipName fun _ => ih .value _)
        · exact .failAhead _
        · exact .failAhead _

theorem leads_skipValue :
    Leads (IntegralFrom .outside) skipValue fun _ s => IntegralFrom .outside s :=
  .bind .room fun n => leads_skipRest (2 * n) .value []

end Reader

end Json

end ToolRelay
