import Mathlib.Data.List.Forall2
import Mathlib.Tactic.SplitIfs
import ToolRelay.Proofs.Text.Utf8
import ToolRelay.Schema.Encode
import ToolRelay.Schema.OfJson

/-!
# Reading back what a schema has written

`Schema.Faithful` holds of the values that a schema writes without loss; what it asks is local to
each kind of schema.  `Schema.decode_encode` : such a value is read back from what it is written
as.  For a record this needs the names of its fields to be distinct, because its members are read
into slots by name.
-/

namespace ToolRelay

open Json

variable {α β σ ε : Type}

theorem exists_of_bind_eq_ok {x : Except ε α} {f : α → Except ε β} {b : β}
    (h : (do let a ← x; f a) = .ok b) : ∃ a, x = .ok a ∧ f a = .ok b := by
  cases x with
  | error e => contradiction
  | ok a => exact ⟨a, rfl, h⟩

theorem exists_of_map_eq_ok {x : Except ε α} {f : α → β} {b : β} (h : x.map f = .ok b) :
    ∃ a, x = .ok a ∧ f a = b := by
  cases x with
  | error e => contradiction
  | ok a => exact ⟨a, rfl, Except.ok.inj h⟩

theorem Json.readAll_eq_ok_iff {decode : Json → Except Complaint α} {js : List Json}
    {as : List α} :
    readAll decode js = .ok as ↔ List.Forall₂ (fun j a => decode j = .ok a) js as := by
  constructor
  · intro h
    induction js generalizing as with
    | nil => cases h; exact .nil
    | cons j js ih =>
      obtain ⟨a, ha, h⟩ := exists_of_bind_eq_ok h
      obtain ⟨as, has, h⟩ := exists_of_bind_eq_ok h
      cases h
      exact .cons ha (ih has)
  · intro h
    induction h with
    | nil => rfl
    | cons ha _ ih => rw [readAll, ha, ih]; rfl

theorem forall₂_of_mapM {f : α → Except ε β} {r : β → α → Prop} {as : List α} {bs : List β}
    (h : as.mapM f = .ok bs) (hr : ∀ a ∈ as, ∀ b, f a = .ok b → r b a) :
    List.Forall₂ r bs as := by
  induction as generalizing bs with
  | nil => cases h; exact .nil
  | cons a as ih =>
    rw [List.mapM_cons] at h
    obtain ⟨b, hb, h⟩ := exists_of_bind_eq_ok h
    obtain ⟨bs, hbs, h⟩ := exists_of_bind_eq_ok h
    cases h
    exact .cons (hr a (List.mem_cons_self ..) b hb)
      (ih hbs fun a ha => hr a (List.mem_cons_of_mem _ ha))

theorem exists_mapM_eq_ok {f : α → Except ε β} {r : β → Prop} {as : List α}
    (h : ∀ a ∈ as, ∃ b, f a = .ok b ∧ r b) : ∃ bs, as.mapM f = .ok bs ∧ ∀ b ∈ bs, r b := by
  induction as with
  | nil => exact ⟨[], rfl, nofun⟩
  | cons a as ih =>
    obtain ⟨⟨b, hb, hr⟩, has⟩ := List.forall_mem_cons.1 h
    obtain ⟨bs, hbs, hrs⟩ := ih has
    exact ⟨b :: bs, by rw [List.mapM_cons, hb, hbs]; rfl, List.forall_mem_cons.2 ⟨hr, hrs⟩⟩

theorem Schema.decode_optional (s : Schema α) {j : Json} (h : j ≠ .null) :
    s.optional.decode j = (s.decode j).map some := by
  cases j with
  | null => exact absurd rfl h
  | _ => rfl

/-- The names of the fields. -/
def Fields.names : {σ β : Type} → Fields σ β → List String
  | _, _, .nil => []
  | _, _, .cons name _ _ rest => name :: rest.names

/-- A field that is left out has the value that it gets when it is absent. -/
def Presence.Restores (presence : Presence α) (s : Schema α) (a : α) : Prop :=
  match presence with
  | .orOmitted v => s.encode a = .ok .null → a = v
  | _ => True

mutual

/-- A value that is written without loss. -/
def Schema.Faithful : {α : Type} → Schema α → α → Prop
  | _, .text, _ => True
  | _, .path, _ => True
  | _, .flag, _ => True
  | _, .count, n => n ≤ 0xFFFFFFFFFFFFFFFF
  | _, .code, n => -0x8000000000000000 ≤ n ∧ n ≤ 0x7FFFFFFFFFFFFFFF
  | _, .any, _ => True
  | _, .optional s, a => ∀ b, a = some b → s.Faithful b ∧ s.encode b ≠ .ok .null
  | _, .list s, as => ∀ a ∈ as, s.Faithful a
  | _, .choice c, a => c.read (c.name a) = .ok a
  | _, .record _ fields ofFields toFields, a =>
    ofFields (toFields a) = a ∧ fields.names.Nodup ∧ fields.Faithful (toFields a)

/-- Fields that are written without loss. -/
def Fields.Faithful : {σ β : Type} → Fields σ β → β → Prop
  | _, _, .nil, _ => True
  | _, _, .cons _ presence s rest, (a, b) =>
    s.Faithful a ∧ presence.Restores s a ∧ rest.Faithful b

end

/-- An optional field that is left out is one without a value. -/
theorem Presence.restores_none {s : Schema α} {a : Option α} (h : s.optional.Faithful a) :
    (Presence.orOmitted none).Restores s.optional a := by
  intro hnull
  cases a with
  | none => rfl
  | some b => exact absurd hnull (h b rfl).2

namespace Fields

theorem decodeMember_of_ne {name key : String} {presence : Presence α} {s : Schema α}
    {rest : Fields σ β} {slot : Option α} {slots : σ} {j : Json} (h : key ≠ name) :
    (Fields.cons name presence s rest).decodeMember (slot, slots) key j =
      (rest.decodeMember slots key j).map (slot, ·) := by
  rw [decodeMember.eq_def]
  simp only [if_neg h]
  cases rest.decodeMember slots key j <;> rfl

theorem foldMembers_cons {name : String} {presence : Presence α} {s : Schema α}
    {rest : Fields σ β} {slot : Option α} {slots slots' : σ} {ms : List (String × Json)}
    (hms : name ∉ ms.map (·.1)) (h : foldMembers rest.decodeMember slots ms = .ok slots') :
    foldMembers (Fields.cons name presence s rest).decodeMember (slot, slots) ms =
      .ok (slot, slots') := by
  induction ms generalizing slots with
  | nil => cases h; rfl
  | cons m ms ih =>
    simp only [List.map_cons, List.mem_cons, not_or] at hms
    obtain ⟨slots'', hm, h⟩ := exists_of_bind_eq_ok h
    rw [foldMembers, decodeMember_of_ne (Ne.symm hms.1), hm]
    exact ih hms.2 h

/-- A field that is not left out is the first member. -/
theorem encode_cons {name : String} {presence : Presence α} {s : Schema α} {rest : Fields σ β}
    {a : α} {b : β} {value : Json} {others : List (String × Json)}
    (hp : (∀ v, presence ≠ .orOmitted v) ∨ value ≠ .null) (ha : s.encode a = .ok value)
    (hb : rest.encode b = .ok others) :
    (Fields.cons name presence s rest).encode (a, b) = .ok ((name, value) :: others) := by
  rw [Fields.encode, ha, hb]
  simp only [Bind.bind, Except.bind]
  split
  · exact hp.elim (fun h => absurd rfl (h _)) (absurd rfl)
  · rfl

/-- A field is left out or is the first member. -/
theorem encode_cons_cases {name : String} {presence : Presence α} {s : Schema α}
    {rest : Fields σ β} {a : α} {b : β} {value : Json} {others : List (String × Json)}
    (ha : s.encode a = .ok value) (hb : rest.encode b = .ok others) :
    (Fields.cons name presence s rest).encode (a, b) = .ok others ∨
      (Fields.cons name presence s rest).encode (a, b) = .ok ((name, value) :: others) := by
  rw [Fields.encode, ha, hb]
  simp only [Bind.bind, Except.bind]
  split
  · exact .inl rfl
  · exact .inr rfl

/-- Fields are written under their names, in order; some may be left out. -/
theorem sublist_names : {σ β : Type} → (fields : Fields σ β) → {b : β} →
    {ms : List (String × Json)} → fields.encode b = .ok ms →
    (ms.map (·.1)).Sublist fields.names
  | _, _, .nil, _, _, h => by
    rw [Fields.encode] at h
    cases h
    exact .slnil
  | _, _, .cons name presence s rest, (a, b), ms, h => by
    rw [Fields.encode] at h
    obtain ⟨value, hv, h⟩ := exists_of_bind_eq_ok h
    obtain ⟨others, ho, h⟩ := exists_of_bind_eq_ok h
    have := sublist_names rest ho
    split at h
    · cases h; exact .cons _ this
    · cases h; exact .cons_cons _ this

end Fields

mutual

/-- **A value is read back from what it is written as.** -/
theorem Schema.decode_encode : {α : Type} → (s : Schema α) → {a : α} → {j : Json} →
    s.Faithful a → s.encode a = .ok j → s.decode j = .ok a
  | _, .text, a, j, _, h => by cases h; rfl
  | _, .path, a, j, _, h => by
    rw [Schema.encode] at h
    split at h
    · rename_i x hx
      cases h
      rw [Schema.decode, Path.ofString, Utf8.decode?_eq_some_iff.1 hx]
    · contradiction
  | _, .flag, a, j, _, h => by cases h; rfl
  | _, .count, n, j, hf, h => by
    cases h
    rw [Schema.Faithful] at hf
    rw [Schema.decode, Schema.readCount, Schema.inRange, if_pos (by omega)]
    rfl
  | _, .code, n, j, hf, h => by
    cases h
    rw [Schema.Faithful] at hf
    rw [Schema.decode, Schema.readCode, Schema.inRange, if_pos hf]
  | _, .any, a, j, _, h => by cases h; rfl
  | _, .optional s, none, j, _, h => by cases h; rfl
  | _, .optional s, some a, j, hf, h => by
    rw [Schema.Faithful] at hf
    obtain ⟨hs, hne⟩ := hf a rfl
    rw [Schema.encode] at h
    have hj : j ≠ .null := fun he => hne (he ▸ h)
    rw [s.decode_optional hj, s.decode_encode hs h]
    rfl
  | _, .list s, as, j, hf, h => by
    rw [Schema.Faithful] at hf
    rw [Schema.encode] at h
    obtain ⟨js, hjs, rfl⟩ := exists_of_map_eq_ok h
    rw [Schema.decode]
    exact readAll_eq_ok_iff.2 (forall₂_of_mapM hjs fun a ha j => s.decode_encode (hf a ha))
  | _, .choice c, a, j, hf, h => by cases h; exact hf
  | _, .record name fields ofFields toFields, a, j, hf, h => by
    rw [Schema.Faithful] at hf
    obtain ⟨ha, hn, hf⟩ := hf
    rw [Schema.encode] at h
    obtain ⟨ms, hms, rfl⟩ := exists_of_map_eq_ok h
    obtain ⟨slots, hs, hg⟩ := fields.gather_encode hn hf hms
    rw [Schema.decode]
    change (do let slots ← foldMembers fields.decodeMember fields.empty ms
               let b ← fields.gather slots
               return ofFields b) = _
    rw [hs]
    change (do let b ← fields.gather slots; return ofFields b) = _
    rw [hg]
    exact congrArg _ ha

theorem Fields.gather_encode : {σ β : Type} → (fields : Fields σ β) → {b : β} →
    {ms : List (String × Json)} → fields.names.Nodup → fields.Faithful b →
    fields.encode b = .ok ms →
    ∃ slots, foldMembers fields.decodeMember fields.empty ms = .ok slots ∧
      fields.gather slots = .ok b
  | _, _, .nil, _, _, _, _, h => by
    rw [Fields.encode] at h
    cases h
    exact ⟨(), rfl, rfl⟩
  | _, _, .cons name presence s rest, (a, b), ms, hn, hf, h => by
    rw [Fields.names, List.nodup_cons] at hn
    rw [Fields.Faithful] at hf
    obtain ⟨ha, hnull, hb⟩ := hf
    rw [Fields.encode] at h
    obtain ⟨value, hv, h⟩ := exists_of_bind_eq_ok h
    obtain ⟨others, ho, h⟩ := exists_of_bind_eq_ok h
    obtain ⟨slots, hs, hg⟩ := rest.gather_encode hn.2 hb ho
    -- the other members have other names, so they leave this slot alone
    have hmem : name ∉ others.map (·.1) := fun hm => hn.1 ((rest.sublist_names ho).subset hm)
    split at h
    · cases h
      refine ⟨(none, slots), Fields.foldMembers_cons hmem hs, ?_⟩
      rw [Fields.gather, hg, hnull hv]
      rfl
    · cases h
      refine ⟨(some a, slots), ?_, ?_⟩
      · rw [foldMembers, Fields.decodeMember.eq_def, Fields.empty]
        simp only [↓reduceIte, s.decode_encode ha hv]
        exact Fields.foldMembers_cons hmem hs
      · rw [Fields.gather, hg]
        rfl

end

end ToolRelay
