import Mathlib.Data.List.Forall2
import ToolRelay.Proofs.Json.Reading

/-!
# Reading back what has been written

A plain value has no floating-point number, only integers that a reader can tell, objects without
duplicate names and no deeper nesting than a reader allows.  `Plain.reads` is the round trip: the
text of a plain value reads back as the value.  `Reads.items` and `Reads.members` say the same of
the frame of arrays and objects, whatever reads the items and members.
-/

namespace ToolRelay

namespace Json

/-- A value that can be written and read back by a reader with `depth` levels to go. -/
inductive Plain : (depth : Nat) → Json → Prop
  | null {d : Nat} : Plain (d + 1) .null
  | bool {d : Nat} (b : Bool) : Plain (d + 1) (.bool b)
  | int {d : Nat} {n : Int} (lo : -0x8000000000000000 ≤ n) (hi : n ≤ Reader.maxInt) :
      Plain (d + 1) (.int n)
  | text {d : Nat} (s : String) : Plain (d + 1) (.text s)
  | array {d : Nat} {items : List Json} (h : ∀ j ∈ items, Plain (d + 1) j) :
      Plain (d + 2) (.array items)
  | object {d : Nat} {members : List (String × Json)} (hn : (members.map (·.1)).Nodup)
      (h : ∀ m ∈ members, Plain (d + 1) m.2) : Plain (d + 2) (.object members)

/-! ### How a value begins -/

/-- A character that begins a value, so neither blank nor the end of an array or object. -/
def Opens (c : Char) : Prop := Reader.isBlank c = false ∧ c ≠ ']' ∧ c ≠ '\x7d'

instance (c : Char) : Decidable (Opens c) := inferInstanceAs (Decidable (_ ∧ _ ∧ _))

theorem opens_of_isDigit {c : Char} (h : Reader.isDigit c = true) : Opens c ∧ c ≠ 'n' := by
  have hc : ∀ d, Reader.isDigit d = false → c ≠ d := fun _ => Reader.ne_of_test h
  simp [Opens, Reader.isBlank, hc ' ' rfl, hc '\n' rfl, hc '\t' rfl, hc '\r' rfl, hc ']' rfl,
    hc '\x7d' rfl, hc 'n' rfl]

theorem isDigit_of_mem_toDigits {n : Nat} {c : Char} (h : c ∈ Nat.toDigits 10 n) :
    Reader.isDigit c = true := by
  rw [Reader.isDigit_eq]
  exact Nat.isDigit_of_mem_toDigits (by decide) (by decide) h

theorem toDigits_head (n : Nat) :
    ∃ c cs, Nat.toDigits 10 n = c :: cs ∧ Reader.isDigit c = true := by
  cases h : Nat.toDigits 10 n with
  | nil => exact absurd h Nat.toDigits_ne_nil
  | cons c cs => exact ⟨c, cs, rfl, isDigit_of_mem_toDigits (h ▸ List.mem_cons_self ..)⟩

theorem toList_toString_int (n : Int) :
    (toString n).toList =
      if 0 ≤ n then Nat.toDigits 10 n.natAbs else '-' :: Nat.toDigits 10 n.natAbs := by
  rw [Int.toString_eq_repr, Int.repr_eq_if]
  split
  · rw [Nat.toList_repr, show n.toNat = n.natAbs by omega]
  · rw [String.toList_append, Nat.toList_repr, show (-n).toNat = n.natAbs by omega]
    rfl

/-- Only `null` begins with an `n`. -/
theorem Plain.exists_head {d : Nat} {j : Json} (h : Plain d j) :
    ∃ c cs, compactChars j = c :: cs ∧ Opens c ∧ (c = 'n' → j = .null) := by
  cases h with
  | null => exact ⟨_, _, by rw [compactChars], by decide, fun _ => rfl⟩
  | bool b =>
    cases b
    · exact ⟨_, _, by rw [compactChars], by decide, fun h => absurd h (by decide)⟩
    · exact ⟨_, _, by rw [compactChars], by decide, fun h => absurd h (by decide)⟩
  | int =>
    rename_i n _ _
    obtain ⟨c, cs, hc, hd⟩ := toDigits_head n.natAbs
    rw [compactChars, toList_toString_int]
    split
    · exact ⟨c, cs, hc, (opens_of_isDigit hd).1, fun h => absurd h (opens_of_isDigit hd).2⟩
    · exact ⟨_, _, rfl, by decide, fun h => absurd h (by decide)⟩
  | text s =>
    exact ⟨_, _, by rw [compactChars, quoteChars], by decide, fun h => absurd h (by decide)⟩
  | array => exact ⟨_, _, by rw [compactChars], by decide, fun h => absurd h (by decide)⟩
  | object => exact ⟨_, _, by rw [compactChars], by decide, fun h => absurd h (by decide)⟩

/-! ### The frame of arrays and objects -/

namespace Reader

variable {α β : Type} {s t : List Char}

/-- The comma before every item and member but the first. -/
def comma (first : Bool) : List Char := if first then [] else [',']

theorem follows_cons {c : Char} (h : isDigit c = false ∧ c ≠ '.' ∧ c ≠ 'e' ∧ c ≠ 'E') :
    Follows (c :: t) := fun d hd => by cases hd; exact h

theorem follows_compactItems (js : List Json) : Follows (compactItems false js ++ t) := by
  cases js with
  | nil => rw [compactItems]; exact follows_cons (by decide)
  | cons j js => rw [compactItems]; exact follows_cons (by decide)

theorem follows_compactMembers (ms : List (String × Json)) :
    Follows (compactMembers false ms ++ t) := by
  cases ms with
  | nil => rw [compactMembers]; exact follows_cons (by decide)
  | cons m ms => rw [compactMembers]; exact follows_cons (by decide)

namespace Reads

theorem hasItem_end (first : Bool) : Reads (hasItem first) (']' :: t) (']' :: t) false :=
  peekFull_bind rfl (pure _)

theorem hasItem {c : Char} (first : Bool) (h : Opens c) :
    Reads (hasItem first) (comma first ++ c :: t) (c :: t) true := by
  cases first with
  | true =>
    refine peekFull_bind h.1 ?_
    split
    · contradiction
    · rename_i hc; exact absurd (Option.some.inj hc) h.2.1
    · exact pure _
  | false =>
    refine peekFull_bind rfl (advance_bind (peekFull_bind h.1 ?_))
    split
    · contradiction
    · rename_i hc; exact absurd (Option.some.inj hc) h.2.1
    · exact pure _

theorem hasMember_end (first : Bool) :
    Reads (hasMember first) ('\x7d' :: t) ('\x7d' :: t) false := peekFull_bind rfl (pure _)

theorem hasMember (first : Bool) :
    Reads (hasMember first) (comma first ++ '"' :: t) ('"' :: t) true := by
  cases first with
  | true => exact peekFull_bind rfl (pure _)
  | false => exact peekFull_bind rfl (advance_bind (peekFull_bind rfl (pure _)))

theorem endArray : Reads endArray (']' :: t) t () := peekFull_bind rfl advance

theorem endObject : Reads endObject ('\x7d' :: t) t () := peekFull_bind rfl advance

theorem colon : Reads colon (':' :: t) t () := peekFull_bind rfl advance

/-- Items that are read one by one are read as a sequence. -/
theorem items {r : Reader α} {js : List Json} {as : List α}
    (h : List.Forall₂ (fun j a => (∃ c cs, compactChars j = c :: cs ∧ Opens c) ∧
      ∀ t, Follows t → Reads r (compactChars j ++ t) t a) js as) (fuel : Nat)
    (hf : js.length < fuel) (done : List α) :
    Reads (items r fuel done) (compactItems done.isEmpty js ++ t) (']' :: t)
      (done.reverse ++ as) := by
  induction h generalizing fuel done with
  | nil =>
    obtain ⟨fuel, rfl⟩ := Nat.exists_eq_succ_of_ne_zero (Nat.ne_of_gt hf)
    rw [compactItems, List.append_nil]
    exact (hasItem_end _).bind (pure _)
  | @cons j a js as hj _ ih =>
    obtain ⟨fuel, rfl⟩ := Nat.exists_eq_succ_of_ne_zero (Nat.ne_zero_of_lt hf)
    obtain ⟨⟨c, cs, hc, ho⟩, hr⟩ := hj
    rw [compactItems, hc]
    simp only [List.append_assoc, List.cons_append]
    refine (hasItem _ ho).bind ?_
    rw [if_pos rfl, ← List.cons_append, ← hc]
    refine (hr _ (follows_compactItems js)).bind ?_
    have := ih fuel (Nat.lt_of_succ_lt_succ hf) (a :: done)
    simpa using this

/-- What a reader of members gathers from members, from the first to the last. -/
inductive Gathers (member : String → β → Reader β) : List (String × Json) → β → β → Prop
  | nil (b : β) : Gathers member [] b b
  | cons {k : String} {v : Json} {ms : List (String × Json)} {b b' b'' : β}
      (h : ∀ t, Follows t → Reads (member k b) (':' :: compactChars v ++ t) t b')
      (rest : Gathers member ms b' b'') : Gathers member ((k, v) :: ms) b b''

theorem members {member : String → β → Reader β} {ms : List (String × Json)} {b b' : β}
    (h : Gathers member ms b b') (fuel : Nat) (hf : ms.length < fuel) (first : Bool) :
    Reads (members member fuel first b) (compactMembers first ms ++ t) ('\x7d' :: t) b' := by
  induction h generalizing fuel first with
  | nil b =>
    obtain ⟨fuel, rfl⟩ := Nat.exists_eq_succ_of_ne_zero (Nat.ne_of_gt hf)
    rw [compactMembers]
    exact (hasMember_end _).bind (pure _)
  | @cons k v ms b b' b'' hm _ ih =>
    obtain ⟨fuel, rfl⟩ := Nat.exists_eq_succ_of_ne_zero (Nat.ne_zero_of_lt hf)
    have hs : compactMembers first ((k, v) :: ms) ++ t =
        comma first ++ '"' :: (k.toList.flatMap escape ++
          '"' :: (':' :: compactChars v ++ (compactMembers false ms ++ t))) := by
      simp [compactMembers, comma, quoteChars]
    rw [hs]
    refine (hasMember _).bind (advance_bind ((text k).bind ?_))
    refine (hm _ (follows_compactMembers ms)).bind ?_
    exact ih fuel (Nat.lt_of_succ_lt_succ hf) false

end Reads

theorem length_lt_compactItems (js : List Json) : js.length < (compactItems false js).length := by
  induction js with
  | nil => exact Nat.one_pos
  | cons j js ih =>
    simp only [compactItems, Bool.false_eq_true, ↓reduceIte, List.length_append, List.length_cons]
    omega

theorem length_lt_compactMembers (ms : List (String × Json)) :
    ms.length < (compactMembers false ms).length := by
  induction ms with
  | nil => exact Nat.one_pos
  | cons m ms ih =>
    simp only [compactMembers, Bool.false_eq_true, ↓reduceIte, List.length_append, List.length_cons]
    omega

/-- There is room for the items that are ahead. -/
theorem length_lt_room_items (js : List Json) :
    js.length < (compactItems true js ++ t).length + 1 := by
  cases js with
  | nil => exact Nat.succ_pos _
  | cons j js =>
    have := length_lt_compactItems js
    simp only [compactItems, List.length_append, List.length_cons]
    omega

/-- There is room for the members that are ahead. -/
theorem length_lt_room_members (ms : List (String × Json)) :
    ms.length < (compactMembers true ms ++ t).length + 1 := by
  cases ms with
  | nil => exact Nat.succ_pos _
  | cons m ms =>
    have := length_lt_compactMembers ms
    simp only [compactMembers, List.length_append, List.length_cons]
    omega

/-! ### Any value -/

theorem put_of_not_mem {k : String} {v : Json} {ms : List (String × Json)}
    (h : k ∉ ms.map (·.1)) : put k v ms = ms ++ [(k, v)] := by
  induction ms with
  | nil => rfl
  | cons m ms ih =>
    simp only [List.map_cons, List.mem_cons, not_or] at h
    rw [put, if_neg (Ne.symm h.1), ih h.2, List.cons_append]

/-- The members of an object are put one after the other. -/
theorem gathers_put {d : Nat} {ms : List (String × Json)} (done : List (String × Json))
    (h : ∀ m ∈ ms, ∀ t, Follows t → Reads (value d) (compactChars m.2 ++ t) t m.2)
    (hn : ((done ++ ms).map (·.1)).Nodup) :
    Reads.Gathers (fun name done => do colon; return put name (← value d) done) ms done
      (done ++ ms) := by
  induction ms generalizing done with
  | nil => rw [List.append_nil]; exact .nil _
  | cons m ms ih =>
    -- the names are distinct, so the member is put at the end
    have hm : m.1 ∉ done.map (·.1) := by
      rw [List.map_append, List.map_cons] at hn
      exact fun hm => (List.nodup_append.1 hn).2.2 _ hm _ (List.mem_cons_self ..) rfl
    have := ih (done ++ [m]) (fun m hm => h m (List.mem_cons_of_mem _ hm)) (by simpa using hn)
    rw [List.append_assoc, List.singleton_append] at this
    refine .cons (fun t ht => ?_) this
    refine Reads.colon.bind ((h m (List.mem_cons_self ..) t ht).bind ?_)
    rw [put_of_not_mem hm]
    exact Reads.pure _

end Reader

open Reader

/-- A value that begins with a digit is a number. -/
theorem reads_value_of_isDigit {c : Char} {s t : List Char} {j : Json} (hd : isDigit c = true)
    (h : Reads (Reader.number false) (c :: s) t j) (d : Nat) :
    Reads (value (d + 1)) (c :: s) t j := by
  have hc : ∀ x, isDigit x = false → some c ≠ some x := fun _ => some_ne_of_test hd
  rw [value]
  refine .placed (.peekFull_bind (opens_of_isDigit hd).1.1 ?_)
  split
  · contradiction
  · exact absurd ‹_› (hc 'n' rfl)
  · exact absurd ‹_› (hc 't' rfl)
  · exact absurd ‹_› (hc 'f' rfl)
  · exact absurd ‹_› (hc '-' rfl)
  · exact absurd ‹_› (hc '"' rfl)
  · exact absurd ‹_› (hc '[' rfl)
  · exact absurd ‹_› (hc '\x7b' rfl)
  · rename_i x _ _ _ _ _ _ _ hx
    rw [← Option.some.inj hx, if_pos hd]
    exact h

theorem Reader.Reads.int_of_nonneg {n : Int} (hi : n ≤ maxInt) (hn : 0 ≤ n) {t : List Char}
    (ht : Follows t) :
    Reads (Reader.number false) (Nat.toDigits 10 n.natAbs ++ t) t (.int n) := by
  have hm : n.natAbs ≤ maxInt := by omega
  have hr := Reads.number false hm (by simp) ht
  rwa [if_neg (by decide), show (n.natAbs : Int) = n by omega] at hr

theorem Reader.Reads.int_of_neg {n : Int} (lo : -0x8000000000000000 ≤ n) (hn : ¬0 ≤ n)
    {t : List Char} (ht : Follows t) :
    Reads (Reader.number true) (Nat.toDigits 10 n.natAbs ++ t) t (.int n) := by
  have hm : n.natAbs ≤ maxInt := by unfold maxInt; omega
  have hr := Reads.number true hm (fun _ => by omega) ht
  rwa [if_pos rfl, show -(n.natAbs : Int) = n by omega] at hr

/-- **The round trip.**  The text of a plain value reads back as the value. -/
theorem Plain.reads {d : Nat} {j : Json} (h : Plain d j) {t : List Char} (ht : Follows t) :
    Reads (value d) (compactChars j ++ t) t j := by
  induction h generalizing t with
  | null =>
    rw [value, compactChars]
    exact .placed (.peekFull_bind rfl (.advance_bind ((Reads.word _).bind (.pure _))))
  | bool b =>
    rw [value]
    cases b <;> rw [compactChars] <;>
      exact .placed (.peekFull_bind rfl (.advance_bind ((Reads.word _).bind (.pure _))))
  | @int d n lo hi =>
    rw [compactChars, toList_toString_int]
    by_cases hn : 0 ≤ n
    · obtain ⟨c, cs, hc, hd⟩ := toDigits_head n.natAbs
      have hr := Reads.int_of_nonneg hi hn ht
      rw [if_pos hn]
      rw [hc] at hr ⊢
      exact reads_value_of_isDigit hd hr d
    · rw [if_neg hn, value]
      exact .placed (.peekFull_bind rfl (.advance_bind (.int_of_neg lo hn ht)))
  | text s =>
    rw [value, compactChars, Reads.quoteChars_append]
    exact .placed (.peekFull_bind rfl (.advance_bind ((Reads.text s).bind (.pure _))))
  | @array d items h ih =>
    rw [value, compactChars]
    refine .placed (.peekFull_bind rfl (.advance_bind ?_))
    refine Reads.closedBy ?_ .endArray
    refine Reads.room.bind ((Reads.items ?_ _ (length_lt_room_items items) []).bind (.pure _))
    rw [List.forall₂_same]
    exact fun j hj => ⟨(h j hj).exists_head.imp fun c ⟨cs, hc, ho, _⟩ => ⟨cs, hc, ho⟩,
      fun t ht => ih j hj ht⟩
  | @object d members hn h ih =>
    rw [value, compactChars]
    refine .placed (.peekFull_bind rfl (.advance_bind ?_))
    refine Reads.closedBy ?_ .endObject
    refine Reads.room.bind ((Reads.members ?_ _ (length_lt_room_members members) true).bind
      (.pure _))
    exact gathers_put [] (fun m hm t ht => ih m hm ht) (by simpa using hn)

/-! ### A whole text -/

namespace Reader

theorem follows_of_blank {t : List Char} (h : ∀ c ∈ t, isBlank c = true) : Follows t := by
  intro c hc
  have hb := h c (List.mem_of_mem_head? hc)
  have hne : ∀ x, isBlank x = false → c ≠ x := fun _ => ne_of_test hb
  refine ⟨?_, hne _ rfl, hne _ rfl, hne _ rfl⟩
  by_contra hd
  exact absurd (opens_of_isDigit (by simpa using hd)).1.1 (by simp [hb])

theorem Reads.finish {t : List Char} (ht : ∀ c ∈ t, isBlank c = true) : Reads finish t [] () := by
  rw [← List.append_nil t]
  exact (Reads.peekFull ht (by simp)).bind (.pure ())

/-- A text is what `r` reads from it if nothing but blanks is left. -/
theorem Reads.run {α : Type} {r : Reader α} {s : String} {t : List Char} {a : α}
    (h : Reads r s.toList t a) (ht : ∀ c ∈ t, isBlank c = true) : run r s = .ok a := by
  have hall : Reads (do let a ← r; Reader.finish; return a) s.toList [] a :=
    h.bind ((Reads.finish ht).bind (.pure a))
  obtain ⟨j, hj⟩ := hall 0
  rw [Reader.run, Text.Cursor.start, hj]

end Reader

/-- A plain value is what its text spells. -/
theorem Plain.parse_compact {j : Json} (h : Plain Reader.maxDepth j) : parse j.compact = .ok j := by
  refine Reads.run (t := []) ?_ (by simp)
  have := h.reads (t := []) (by simp [Follows])
  simpa [compact] using this

end Json

end ToolRelay
