import ToolRelay.Proofs.Json.Skip
import ToolRelay.Proofs.Schema.Decode
import ToolRelay.Proofs.Text.Split
import ToolRelay.Schema.OfText
import ToolRelay.Text.Blank

/-!
# Reading text and reading values agree

A schema reads a JSON value, and it reads JSON text on the way.  `Schema.reads_of_decode` ties the
second to the first: from the text of a plain value the text reader takes what the value reader
takes from the value.
-/

namespace ToolRelay

open Json Json.Reader

variable {α β σ : Type} {d : Nat} {s t : List Char}

namespace Json.Reader.Reads

theorem valueAhead {c : Char} (h : isBlank c = false) :
    Reads valueAhead (c :: t) (c :: t) c := peekFull_bind h (.pure c)

theorem textValue (expected : String) (x : String) :
    Reads (textValue expected) (quoteChars x ++ t) t x := by
  rw [quoteChars_append]
  exact .placed ((valueAhead rfl).bind (advance_bind (.text x)))

theorem ofExcept {r : Except Complaint α} {a : α} (h : r = .ok a) : Reads (ofExcept r) t t a := by
  subst h
  exact .pure a

theorem integer {check : Int → Except Complaint α} {n : Int} {a : α} (expected : String)
    (hp : Plain d (.int n)) (h : check n = .ok a) (ht : Follows t) :
    Reads (integer expected check) (compactChars (.int n) ++ t) t a := by
  obtain ⟨lo, hi⟩ : -0x8000000000000000 ≤ n ∧ n ≤ maxInt := by
    cases hp with
    | int lo hi => exact ⟨lo, hi⟩
  rw [compactChars, toList_toString_int]
  refine .placed ?_
  by_cases hn : 0 ≤ n
  · obtain ⟨c, cs, hc, hd⟩ := toDigits_head n.natAbs
    have hr := int_of_nonneg hi hn ht
    rw [if_pos hn]
    rw [hc] at hr ⊢
    have hne : c ≠ '-' := fun he => by simp [he, isDigit] at hd
    refine (valueAhead (opens_of_isDigit hd).1.1).bind ?_
    rw [if_pos (.inr hd), if_neg hne, beq_false_of_ne hne]
    exact hr.bind (ofExcept h)
  · rw [if_neg hn]
    refine (valueAhead rfl).bind ?_
    rw [if_pos (.inl rfl), if_pos rfl]
    exact advance.bind ((int_of_neg lo hn ht).bind (ofExcept h))

end Json.Reader.Reads

theorem Choice.reads_of_decode (c : Choice α) {j : Json} {a : α} (hp : Plain d j)
    (h : c.decode j = .ok a) : Reads (c.readText d) (compactChars j ++ t) t a := by
  cases hp with
  | null => contradiction
  | bool b => contradiction
  | int lo hi => contradiction
  | array hi => contradiction
  | text x =>
    rw [compactChars, Reads.quoteChars_append]
    exact .placed ((Reads.valueAhead rfl).bind (.advance_bind ((Reads.text x).bind (.ofExcept h))))
  | @object d members hn hm =>
    match members, h with
    | [(name, j)], h =>
      obtain ⟨a', ha, h⟩ := exists_of_bind_eq_ok h
      obtain ⟨⟨⟩, hj, h⟩ := exists_of_bind_eq_ok h
      -- a choice with a value has no value but `null`
      obtain rfl : j = .null := by cases j <;> first | rfl | contradiction
      cases h
      have hs : compactMembers true [(name, Json.null)] ++ t =
          quoteChars name ++ ':' :: 'n' :: (['u', 'l', 'l'] ++ '\x7d' :: t) := by
        simp [compactMembers, compactChars]
      rw [compactChars, List.cons_append, hs]
      refine .placed ((Reads.valueAhead rfl).bind ?_)
      rw [if_neg (by omega)]
      refine .advance_bind ?_
      refine (Reads.skipBlanks (s := []) (by simp) (by simp [isBlank])).bind ?_
      refine (Reads.textValue _ name).bind ((Reads.ofExcept ha).bind (Reads.colon.bind ?_))
      refine (Reads.valueAhead rfl).bind ?_
      rw [if_pos rfl]
      exact .advance_bind ((Reads.word _).bind (.peekFull_bind rfl (.advance_bind (.pure _))))

/-! ### Values of any schema -/

theorem gathers_of_foldMembers {read : String → σ → Reader σ}
    {member : σ → String → Json → Except Complaint σ} {ms : List (String × Json)} {b b' : σ}
    (hr : ∀ m ∈ ms, ∀ b b', member b m.1 m.2 = .ok b' →
      ∀ t, Follows t → Reads (read m.1 b) (':' :: compactChars m.2 ++ t) t b')
    (h : foldMembers member b ms = .ok b') : Reads.Gathers read ms b b' := by
  induction ms generalizing b with
  | nil => cases h; exact .nil _
  | cons m ms ih =>
    obtain ⟨b'', hb, h⟩ := exists_of_bind_eq_ok h
    exact .cons (hr m (List.mem_cons_self ..) _ _ hb)
      (ih (fun m hm => hr m (List.mem_cons_of_mem _ hm)) h)

mutual

/-- **Text and value readers agree.**  What a schema reads from a plain value, it reads from the
text of the value. -/
theorem Schema.reads_of_decode : {α : Type} → (s : Schema α) → {d : Nat} → {j : Json} → {a : α} →
    {t : List Char} → Plain d j → Follows t → s.decode j = .ok a →
    Reads (s.readText d) (compactChars j ++ t) t a
  | _, .text, d, j, a, t, hp, ht, h => by
    cases j with
    | text x =>
      cases h
      rw [Schema.readText, compactChars]
      exact .textValue _ _
    | _ => contradiction
  | _, .path, d, j, a, t, hp, ht, h => by
    cases j with
    | text x =>
      cases h
      rw [Schema.readText, compactChars]
      exact (Reads.textValue _ _).bind (.pure _)
    | _ => contradiction
  | _, .flag, d, j, a, t, hp, ht, h => by
    cases j with
    | bool b =>
      cases h
      rw [Schema.readText]
      cases a <;> rw [compactChars] <;>
        exact .placed ((Reads.valueAhead rfl).bind (.advance_bind ((Reads.word _).bind (.pure _))))
    | _ => contradiction
  | _, .count, d, j, a, t, hp, ht, h => by
    cases j with
    | int n =>
      rw [Schema.readText]
      exact .integer _ hp h ht
    | _ => contradiction
  | _, .code, d, j, a, t, hp, ht, h => by
    cases j with
    | int n =>
      rw [Schema.readText]
      exact .integer _ hp h ht
    | _ => contradiction
  | _, .any, d, j, a, t, hp, ht, h => by
    cases h
    rw [Schema.readText]
    exact hp.reads ht
  | _, .optional s, d, j, a, t, hp, ht, h => by
    rw [Schema.readText]
    by_cases hj : j = .null
    · subst hj
      cases h
      rw [compactChars]
      exact .peekFull_bind rfl (.advance_bind ((Reads.word _).bind (.pure _)))
    · rw [s.decode_optional hj] at h
      obtain ⟨b, hb, rfl⟩ := exists_of_map_eq_ok h
      have hr := s.reads_of_decode hp ht hb
      obtain ⟨c, cs, hc, ho, hn⟩ := hp.exists_head
      rw [hc] at hr ⊢
      refine .peekFull_bind ho.1 ?_
      split
      · rename_i hx; exact absurd (hn (Option.some.inj hx)) hj
      · exact hr.bind (.pure _)
  | _, .list s, d, j, a, t, hp, ht, h => by
    cases hp with
    | @array d items hi =>
      rw [Schema.decode, readAll_eq_ok_iff] at h
      rw [Schema.readText, compactChars]
      refine .placed ((Reads.valueAhead rfl).bind ?_)
      rw [if_neg (by omega)]
      refine .advance_bind (Reads.closedBy ?_ .endArray)
      refine Reads.room.bind (Reads.items ?_ _ (length_lt_room_items items) [])
      refine ((List.forall₂_and_left ..).2 ⟨hi, h⟩).imp fun j a ⟨hj, ha⟩ => ⟨?_, fun t ht => ?_⟩
      · obtain ⟨c, cs, hc, ho, -⟩ := hj.exists_head
        exact ⟨c, cs, hc, ho⟩
      · exact s.reads_of_decode hj ht ha
    | _ => contradiction
  | _, .choice c, d, j, a, t, hp, ht, h => by
    rw [Schema.readText]
    exact c.reads_of_decode hp h
  | _, .record name fields ofFields toFields, d, j, a, t, hp, ht, h => by
    rw [Schema.readText]
    cases hp with
    | @array d items hi =>
      rw [Schema.decode] at h
      obtain ⟨⟨b, left⟩, hb, h⟩ := exists_of_bind_eq_ok h
      dsimp only at h
      split at h
      · rename_i hl
        cases h
        obtain rfl := List.isEmpty_iff.1 hl
        rw [compactChars]
        refine .placed ((Reads.valueAhead rfl).bind ?_)
        rw [if_neg (by omega)]
        refine .advance_bind (Reads.closedBy ?_ .endArray)
        exact (fields.readsItems_of_decode hi hb).bind (.pure _)
      · contradiction
    | @object d members hn hm =>
      rw [Schema.decode] at h
      obtain ⟨slots, hs, h⟩ := exists_of_bind_eq_ok h
      obtain ⟨b, hb, h⟩ := exists_of_bind_eq_ok h
      cases h
      rw [compactChars]
      refine .placed ((Reads.valueAhead rfl).bind ?_)
      rw [if_neg (by omega)]
      refine .advance_bind (Reads.closedBy ?_ .endObject)
      refine Reads.room.bind ((Reads.members ?_ _ (length_lt_room_members members) true).bind
        ((Reads.ofExcept hb).bind (.pure _)))
      exact gathers_of_foldMembers (fun m hm' slots slots' hs t ht =>
        fields.readsMember_of_decode (hm m hm') ht hs) hs
    | _ => contradiction

theorem Fields.readsItems_of_decode : {σ β : Type} → (fields : Fields σ β) → {d : Nat} →
    {record : String} → {total index : Nat} → {js : List Json} → {b : β} → {t : List Char} →
    (∀ j ∈ js, Plain d j) → fields.decodeItems record total index js = .ok (b, []) →
    Reads (fields.readItems d record total index) (compactItems (index == 0) js ++ t)
      (']' :: t) b
  | _, _, .nil, d, record, total, index, js, b, t, hp, h => by
    cases h
    rw [Fields.readItems, compactItems]
    exact .pure _
  | _, _, .cons _ presence s rest, d, record, total, index, js, b, t, hp, h => by
    rw [Fields.readItems]
    rw [Fields.decodeItems.eq_def] at h
    cases js with
    | cons j js =>
      obtain ⟨a, ha, h⟩ := exists_of_bind_eq_ok h
      obtain ⟨⟨b', left⟩, hb, h⟩ := exists_of_bind_eq_ok h
      cases h
      obtain ⟨c, cs, hc, ho, -⟩ := (hp j (List.mem_cons_self ..)).exists_head
      have hr := s.reads_of_decode (t := compactItems false js ++ t) (hp j (List.mem_cons_self ..))
        (follows_compactItems js) ha
      rw [compactItems, List.append_assoc, List.append_assoc]
      rw [hc] at hr ⊢
      refine (Reads.hasItem _ ho).bind ?_
      rw [if_pos rfl]
      refine hr.bind (Reads.bind ?_ (.pure _))
      exact rest.readsItems_of_decode (fun j hj => hp j (List.mem_cons_of_mem _ hj)) hb
    | nil =>
      rw [compactItems]
      refine (Reads.hasItem_end _).bind ?_
      rw [if_neg (by decide)]
      dsimp only at h
      cases hv : presence.value? with
      -- a field beyond the last item gets the value of an absent one
      | none => rw [hv] at h; contradiction
      | some a =>
        rw [hv] at h
        obtain ⟨⟨b', left⟩, hb, h⟩ := exists_of_bind_eq_ok h
        cases h
        have := rest.readsItems_of_decode (t := t) (d := d)
          (fun _ h => absurd h List.not_mem_nil) hb
        rw [compactItems] at this
        exact this.bind (.pure _)

theorem Fields.readsMember_of_decode : {σ β : Type} → (fields : Fields σ β) → {d : Nat} →
    {key : String} → {slots slots' : σ} → {j : Json} → {t : List Char} → Plain d j → Follows t →
    fields.decodeMember slots key j = .ok slots' →
    Reads (fields.readMember d key slots) (':' :: compactChars j ++ t) t slots'
  | _, _, .nil, d, key, slots, slots', j, t, hp, ht, h => by
    cases h
    rw [Fields.readMember]
    exact Reads.colon.bind ((hp.reads_skipValue ht).bind (.pure _))
  | _, _, .cons name presence s rest, d, key, (slot, slots), slots', j, t, hp, ht, h => by
    rw [Fields.readMember.eq_def]
    by_cases hk : key = name
    · rw [Fields.decodeMember.eq_def] at h
      simp only [if_pos hk] at h ⊢
      cases slot with
      | some _ => contradiction
      | none =>
        obtain ⟨a, ha, h⟩ := exists_of_bind_eq_ok h
        cases h
        exact Reads.colon.bind ((s.reads_of_decode hp ht ha).bind (.pure _))
    · rw [Fields.decodeMember_of_ne hk] at h
      obtain ⟨slots'', hs, rfl⟩ := exists_of_map_eq_ok h
      simp only [if_neg hk]
      exact (rest.readsMember_of_decode hp ht hs).bind (.pure _)

end

/-- A schema reads from a whole text, with blanks after it, what it reads from the value. -/
theorem Schema.parse_of_decode (s : Schema α) {j : Json} {a : α} {t : List Char}
    (hp : Plain maxDepth j) (h : s.decode j = .ok a) (ht : ∀ c ∈ t, isBlank c = true) :
    s.parse (j.compact ++ String.ofList t) = .ok a := by
  refine Reads.run (t := t) ?_ ht
  rw [String.toList_append, compact, String.toList_ofList, String.toList_ofList]
  exact s.reads_of_decode hp (follows_of_blank ht) h

/-! ### Texts that say nothing -/

/-- With `s` ahead, `r` fails. -/
def Json.Reader.Fails (r : Reader α) (s : List Char) : Prop :=
  ∀ i, ∃ f c, r ⟨i, s⟩ = .error f c

namespace Json.Reader.Fails

theorem failAhead (complaint : Complaint) : Fails (failAhead (α := α) complaint) s :=
  fun _ => ⟨_, _, rfl⟩

theorem placed {r : Reader α} (h : Fails r s) : Fails (placed r) s := by
  intro i
  obtain ⟨f, c, hr⟩ := h i
  exact ⟨_, _, by rw [Reader.placed, hr]⟩

theorem bind_of_reads {r : Reader β} {f : β → Reader α} {b : β} (h : Reads r s t b)
    (h' : Fails (f b) t) : Fails (r >>= f) s := by
  intro i
  obtain ⟨j, hj⟩ := h i
  obtain ⟨e, c, he⟩ := h' j
  refine ⟨e, c, ?_⟩
  change EStateM.bind r f ⟨i, s⟩ = _
  rw [EStateM.bind, hj]
  exact he

theorem bind {r : Reader β} {f : β → Reader α} (h : Fails r s) : Fails (r >>= f) s := by
  intro i
  obtain ⟨e, c, he⟩ := h i
  refine ⟨e, c, ?_⟩
  change EStateM.bind r f ⟨i, s⟩ = _
  rw [EStateM.bind, he]

theorem run {r : Reader α} {s : String} (h : Fails r s.toList) (a : α) : run r s ≠ .ok a := by
  obtain ⟨e, c, he⟩ := (h.bind (f := fun a => do finish; pure a)) 0
  rw [Reader.run, Text.Cursor.start, he]
  intro h
  contradiction

end Json.Reader.Fails

/-- No value begins with a blank character. -/
theorem failKind_fails_of_blank {c : Char} (h : Text.isBlank c = true) (expected : String) :
    Fails (failKind (α := α) expected) (c :: s) := by
  have hne : ∀ x, Text.isBlank x = false → some c ≠ some x := fun _ => some_ne_of_test h
  refine .placed (.bind_of_reads .peek ?_)
  split
  · exact absurd ‹_› (hne 'n' rfl)
  · exact absurd ‹_› (hne 't' rfl)
  · exact absurd ‹_› (hne 'f' rfl)
  · exact absurd ‹_› (hne '-' rfl)
  · exact absurd ‹_› (hne '"' rfl)
  · exact absurd ‹_› (hne '[' rfl)
  · exact absurd ‹_› (hne '\x7b' rfl)
  · rename_i x _ _ _ _ _ _ _ hx
    obtain rfl := Option.some.inj hx
    have hd : isDigit c = false := by
      by_contra hd
      simp only [isDigit, Bool.not_eq_false, Bool.and_eq_true, decide_eq_true_eq] at hd
      simp [Text.isBlank] at h
      omega
    rw [if_neg (by simp [hd])]
    exact .failAhead _
  · exact .failAhead _

theorem Schema.record_fails_of_blank {name : String} {fields : Fields σ β} {ofFields : β → α}
    {toFields : α → β} (h : ∀ c ∈ s, Text.isBlank c = true) :
    Fails ((Schema.record name fields ofFields toFields).readText d) s := by
  -- the blanks of JSON are skipped; what is left begins with another blank, if with any
  have hu : ∀ c ∈ s.takeWhile isBlank, isBlank c = true :=
    List.all_eq_true.1 List.all_takeWhile
  have hv : ∀ c ∈ (s.dropWhile isBlank).head?, isBlank c = false := fun _ =>
    Text.eq_false_of_mem_head?_dropWhile
  rw [Schema.readText, ← List.takeWhile_append_dropWhile (p := isBlank) (l := s)]
  have hpeek := Reads.peekFull hu hv
  cases hd : s.dropWhile isBlank with
  | nil =>
    rw [hd] at hpeek
    exact .placed (.bind (.bind_of_reads hpeek (.failAhead _)))
  | cons c v =>
    rw [hd] at hpeek
    have hc : Text.isBlank c = true :=
      h c ((List.dropWhile_sublist _).subset (hd ▸ List.mem_cons_self ..))
    have hne : ∀ x, Text.isBlank x = false → c ≠ x := fun _ => ne_of_test hc
    refine .placed (.bind_of_reads (hpeek.bind (.pure c)) ?_)
    split
    · exact absurd rfl (hne '[' rfl)
    · exact absurd rfl (hne '\x7b' rfl)
    · exact failKind_fails_of_blank hc _

end ToolRelay
