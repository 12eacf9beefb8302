import Mathlib.Logic.Relation
import ToolRelay.Proofs.Schema.Members

/-!
# Members that are left out, moved or added

What a value is written as can be edited (`Schema.Edit`): the members of an object, at any depth,
can be put into another order, members with unknown names can be added, and members without which
their fields have a value can be left out.

* `Schema.overlay` : the value with the left-out members replaced by what absent fields are;
* `Schema.Spells` : the invariant, which is that each member still spells its part of the value;
* `Schema.exists_encode` : a value whose paths are text can be written;
* `Schema.spells_encode`, `Schema.Edit.spells` : what is written spells the value, and each edit
  keeps this;
* `Schema.decode_of_spells` : what spells the value is read as the overlay;
* `Schema.decode_of_edits` : so whatever edits lead to is read as the overlay;
* `Schema.Lacks.decode_ne_ok` : where a required member lacks, at any depth, nothing is read.
-/

namespace ToolRelay

open Json

variable {α β σ : Type}

mutual

/-- The value `c` laid over the values of absent fields: a record that `j` writes has the field of
`c` where it has the member, and the value of an absent field where it has none. -/
def Schema.overlay : {α : Type} → Schema α → α → Json → α
  | _, .optional s, c, j => c.map fun c => s.overlay c j
  | _, .list s, cs, j =>
    match j with
    | .array items => List.zipWith (fun c item => s.overlay c item) cs items
    | _ => cs
  | _, .record _ fields ofFields toFields, c, j =>
    match j with
    | .object ms => ofFields (fields.overlay (toFields c) ms)
    | _ => c
  | _, _, c, _ => c

/-- The fields of `c` that have a member, over the values of absent fields. -/
def Fields.overlay : {σ β : Type} → Fields σ β → β → List (String × Json) → β
  | _, _, .nil, _, _ => ()
  | _, _, .cons name presence s rest, (c, cs), ms =>
    ((match lookup name ms with
      | some j => s.overlay c j
      | none => presence.value?.getD c),
      rest.overlay cs ms)

end

mutual

/-- `j` is `c` written down, up to the order of members, members with other names, and absent
members. -/
def Schema.Spells : {α : Type} → Schema α → α → Json → Prop
  | _, .optional s, c, j =>
    match c with
    | none => j = .null
    | some c => s.Spells c j
  | _, .list s, cs, j =>
    match j with
    | .array items => List.Forall₂ (fun c item => s.Spells c item) cs items
    | _ => False
  | _, .record _ fields _ toFields, c, j =>
    match j with
    | .object ms => fields.Spells (toFields c) ms
    | _ => False
  | _, s, c, j => s.encode c = .ok j

/-- Each field has one member that spells it, or has none and has a value when it is absent. -/
def Fields.Spells : {σ β : Type} → Fields σ β → β → List (String × Json) → Prop
  | _, _, .nil, _, _ => True
  | _, _, .cons name presence s rest, (c, cs), ms =>
    ((∃ j, valuesUnder name ms = [j] ∧ s.Spells c j) ∨
        valuesUnder name ms = [] ∧ presence.value?.isSome) ∧
      rest.Spells cs ms

end

/-- One edit of what has been written by a schema. -/
inductive Schema.Edit : {α : Type} → Schema α → Json → Json → Prop
  /-- The members of an object in another order. -/
  | reorder {α β σ : Type} {record : String} {fields : Fields σ β} {ofFields : β → α}
      {toFields : α → β} {ms ms' : List (String × Json)} (h : ms.Perm ms') :
      (Schema.record record fields ofFields toFields).Edit (.object ms) (.object ms')
  /-- One more member, with an unknown name. -/
  | add {α β σ : Type} {record : String} {fields : Fields σ β} {ofFields : β → α}
      {toFields : α → β} {ms : List (String × Json)} {key : String} {j : Json}
      (h : key ∉ fields.names) :
      (Schema.record record fields ofFields toFields).Edit (.object ms) (.object ((key, j) :: ms))
  /-- Without a member that need not be there. -/
  | delete {α β σ : Type} {record : String} {fields : Fields σ β} {ofFields : β → α}
      {toFields : α → β} {ms : List (String × Json)} {key : String}
      (h : key ∉ fields.required) :
      (Schema.record record fields ofFields toFields).Edit (.object ms)
        (.object (without key ms))
  /-- An edit inside a member. -/
  | member {α β γ σ : Type} {record : String} {fields : Fields σ β} {ofFields : β → α}
      {toFields : α → β} {before after : List (String × Json)} {key : String} {s : Schema γ}
      {j j' : Json} (hs : fields.Has key s) (h : s.Edit j j') :
      (Schema.record record fields ofFields toFields).Edit (.object (before ++ (key, j) :: after))
        (.object (before ++ (key, j') :: after))
  /-- An edit inside an item of an array. -/
  | item {α : Type} {s : Schema α} {before after : List Json} {j j' : Json} (h : s.Edit j j') :
      (Schema.list s).Edit (.array (before ++ j :: after)) (.array (before ++ j' :: after))
  /-- An edit inside an optional value that is there. -/
  | value {α : Type} {s : Schema α} {j j' : Json} (h : s.Edit j j') :
      (Schema.optional s).Edit j j'

/-- At some depth of `j`, an object lacks a member that must be there. -/
inductive Schema.Lacks : {α : Type} → Schema α → Json → Prop
  /-- The object itself lacks it. -/
  | missing {α β σ : Type} {record : String} {fields : Fields σ β} {ofFields : β → α}
      {toFields : α → β} {ms : List (String × Json)} {key : String} (h : key ∈ fields.required)
      (hms : key ∉ ms.map (·.1)) :
      (Schema.record record fields ofFields toFields).Lacks (.object ms)
  /-- An object in one of the members lacks it. -/
  | member {α β γ σ : Type} {record : String} {fields : Fields σ β} {ofFields : β → α}
      {toFields : α → β} {ms : List (String × Json)} {key : String} {s : Schema γ} {j : Json}
      (hs : fields.Has key s) (hj : (key, j) ∈ ms) (h : s.Lacks j) :
      (Schema.record record fields ofFields toFields).Lacks (.object ms)
  /-- An object in one of the items lacks it. -/
  | item {α : Type} {s : Schema α} {items : List Json} {j : Json} (hj : j ∈ items)
      (h : s.Lacks j) : (Schema.list s).Lacks (.array items)
  /-- An object in the optional value lacks it. -/
  | value {α : Type} {s : Schema α} {j : Json} (h : s.Lacks j) : (Schema.optional s).Lacks j

mutual

/-- Every path in the value is text. -/
def Schema.TextPaths : {α : Type} → Schema α → α → Prop
  | _, .path, p => p.toString?.isSome
  | _, .optional s, a => ∀ b, a = some b → s.TextPaths b
  | _, .list s, as => ∀ a ∈ as, s.TextPaths a
  | _, .record _ fields _ toFields, a => fields.TextPaths (toFields a)
  | _, _, _ => True

/-- Every path in the fields is text. -/
def Fields.TextPaths : {σ β : Type} → Fields σ β → β → Prop
  | _, _, .nil, _ => True
  | _, _, .cons _ _ s rest, (a, b) => s.TextPaths a ∧ rest.TextPaths b

end

/-! ### What can be written -/

mutual

theorem Schema.exists_encode : {α : Type} → (s : Schema α) → {a : α} → s.TextPaths a →
    ∃ j, s.encode a = .ok j
  | _, .text, a, _ => ⟨.text a, rfl⟩
  | _, .flag, a, _ => ⟨.bool a, rfl⟩
  | _, .count, a, _ => ⟨.int a, rfl⟩
  | _, .code, a, _ => ⟨.int a, rfl⟩
  | _, .any, a, _ => ⟨a, rfl⟩
  | _, .choice c, a, _ => ⟨.text (c.name a), rfl⟩
  | _, .path, p, h => by
    obtain ⟨text, htext⟩ := Option.isSome_iff_exists.1 h
    exact ⟨.text text, by rw [Schema.encode, htext]⟩
  | _, .optional s, none, _ => ⟨.null, rfl⟩
  | _, .optional s, some a, h => s.exists_encode (h a rfl)
  | _, .list s, as, h => by
    rw [Schema.TextPaths] at h
    obtain ⟨items, hitems, -⟩ := exists_mapM_eq_ok (r := fun _ => True) fun a ha =>
      (s.exists_encode (h a ha)).imp fun _ hj => ⟨hj, trivial⟩
    exact ⟨.array items, by rw [Schema.encode, hitems]; rfl⟩
  | _, .record _ fields _ toFields, a, h => by
    obtain ⟨ms, hms⟩ := fields.exists_encode h
    exact ⟨.object ms, by rw [Schema.encode, hms]; rfl⟩

theorem Fields.exists_encode : {σ β : Type} → (fields : Fields σ β) → {b : β} →
    fields.TextPaths b → ∃ ms, fields.encode b = .ok ms
  | _, _, .nil, _, _ => ⟨[], by rw [Fields.encode]⟩
  | _, _, .cons name presence s rest, (a, b), h => by
    obtain ⟨value, hv⟩ := s.exists_encode h.1
    obtain ⟨others, ho⟩ := rest.exists_encode h.2
    exact (Fields.encode_cons_cases hv ho).elim (⟨_, ·⟩) (⟨_, ·⟩)

end

/-! ### What spells a value -/

/-- Only the members under the names of the fields matter. -/
theorem Fields.spells_congr : {σ β : Type} → (fields : Fields σ β) → {b : β} →
    {ms ms' : List (String × Json)} →
    (∀ key ∈ fields.names, (valuesUnder key ms').Perm (valuesUnder key ms)) →
    fields.Spells b ms → fields.Spells b ms'
  | _, _, .nil, _, _, _, _, _ => trivial
  | _, _, .cons name presence s rest, (c, cs), ms, ms', h, hb => by
    obtain ⟨hc, hcs⟩ := hb
    have hname := h name (List.mem_cons_self ..)
    refine ⟨?_, rest.spells_congr (fun key hkey => h key (List.mem_cons_of_mem _ hkey)) hcs⟩
    rcases hc with ⟨j, hj, hc⟩ | ⟨hnil, hp⟩
    · exact .inl ⟨j, List.perm_singleton.1 (hj ▸ hname), hc⟩
    · exact .inr ⟨List.perm_nil.1 (hnil ▸ hname), hp⟩

theorem Fields.spells_of_eq (fields : Fields σ β) {b : β} {ms ms' : List (String × Json)}
    (h : ∀ key ∈ fields.names, valuesUnder key ms' = valuesUnder key ms)
    (hb : fields.Spells b ms) : fields.Spells b ms' :=
  fields.spells_congr (fun key hkey => .of_eq (h key hkey)) hb

mutual

/-- What a value is written as spells it. -/
theorem Schema.spells_encode : {α : Type} → (s : Schema α) → {c : α} → {j : Json} →
    s.Faithful c → s.encode c = .ok j → s.Spells c j
  | _, .text, _, _, _, h => h
  | _, .path, _, _, _, h => h
  | _, .flag, _, _, _, h => h
  | _, .count, _, _, _, h => h
  | _, .code, _, _, _, h => h
  | _, .any, _, _, _, h => h
  | _, .choice _, _, _, _, h => h
  | _, .optional s, none, _, _, h => (Except.ok.inj h).symm
  | _, .optional s, some c, _, hf, h => s.spells_encode (hf c rfl).1 h
  | _, .list s, cs, j, hf, h => by
    rw [Schema.Faithful] at hf
    obtain ⟨items, hitems, rfl⟩ := exists_of_map_eq_ok h
    exact (forall₂_of_mapM hitems fun c hc item => s.spells_encode (hf c hc)).flip
  | _, .record _ fields _ toFields, c, j, hf, h => by
    obtain ⟨-, hn, hf⟩ := hf
    obtain ⟨ms, hms, rfl⟩ := exists_of_map_eq_ok h
    exact fields.spells_encode hn hf hms

theorem Fields.spells_encode : {σ β : Type} → (fields : Fields σ β) → {b : β} →
    {ms : List (String × Json)} → fields.names.Nodup → fields.Faithful b →
    fields.encode b = .ok ms → fields.Spells b ms
  | _, _, .nil, _, _, _, _, _ => trivial
  | _, _, .cons name presence s rest, (c, cs), ms, hn, hf, h => by
    rw [Fields.names, List.nodup_cons] at hn
    obtain ⟨hc, -, hcs⟩ := hf
    rw [Fields.encode] at h
    obtain ⟨value, hv, h⟩ := exists_of_bind_eq_ok h
    obtain ⟨others, ho, h⟩ := exists_of_bind_eq_ok h
    have hrest := rest.spells_encode hn.2 hcs ho
    have hnil : valuesUnder name others = [] :=
      valuesUnder_eq_nil_iff.2 fun hm => hn.1 ((rest.sublist_names ho).subset hm)
    split at h
    · cases h
      exact ⟨.inr ⟨hnil, rfl⟩, hrest⟩
    · cases h
      refine ⟨.inl ⟨value, by rw [valuesUnder_cons_self, hnil], s.spells_encode hc hv⟩, ?_⟩
      refine rest.spells_of_eq (fun key hkey => valuesUnder_cons_of_ne ?_) hrest
      exact (ne_of_mem_of_not_mem hkey hn.1).symm

end

/-- What spells a value is `null` only if the value is written as `null`. -/
theorem Schema.Spells.ne_null : {α : Type} → (s : Schema α) → {c : α} → {j : Json} →
    s.Spells c j → s.encode c ≠ .ok .null → j ≠ .null
  | _, .text, _, _, h, hn => fun hj => hn (hj ▸ h)
  | _, .path, _, _, h, hn => fun hj => hn (hj ▸ h)
  | _, .flag, _, _, h, hn => fun hj => hn (hj ▸ h)
  | _, .count, _, _, h, hn => fun hj => hn (hj ▸ h)
  | _, .code, _, _, h, hn => fun hj => hn (hj ▸ h)
  | _, .any, _, _, h, hn => fun hj => hn (hj ▸ h)
  | _, .choice _, _, _, h, hn => fun hj => hn (hj ▸ h)
  | _, .optional s, none, _, _, hn => absurd rfl hn
  | _, .optional s, some _, _, h, hn => ne_null s h hn
  | _, .list s, _, _, h, _ => by
    rintro rfl
    exact h
  | _, .record .., _, _, h, _ => by
    rintro rfl
    exact h

mutual

/-- What spells a value is read as the value laid over what absent fields are. -/
theorem Schema.decode_of_spells : {α : Type} → (s : Schema α) → {c : α} → {j : Json} →
    s.Faithful c → s.Spells c j → s.decode j = .ok (s.overlay c j)
  | _, .text, _, _, hf, h => Schema.text.decode_encode hf h
  | _, .path, _, _, hf, h => Schema.path.decode_encode hf h
  | _, .flag, _, _, hf, h => Schema.flag.decode_encode hf h
  | _, .count, _, _, hf, h => Schema.count.decode_encode hf h
  | _, .code, _, _, hf, h => Schema.code.decode_encode hf h
  | _, .any, _, _, hf, h => Schema.any.decode_encode hf h
  | _, .choice names, _, _, hf, h => (Schema.choice names).decode_encode hf h
  | _, .optional s, none, _, _, h => by
    cases h
    rfl
  | _, .optional s, some c, j, hf, h => by
    obtain ⟨hs, hne⟩ := hf c rfl
    have hc : s.Spells c j := h
    rw [s.decode_optional (hc.ne_null s hne), s.decode_of_spells hs hc]
    rfl
  | _, .list s, cs, .array items, hf, h => by
    rw [Schema.Faithful] at hf
    have hitems : List.Forall₂ (fun c item => s.Spells c item) cs items := h
    refine Json.readAll_eq_ok_iff.2 ?_
    induction hitems with
    | nil => exact .nil
    | @cons c item cs items hc hcs ih =>
      rw [List.forall_mem_cons] at hf
      exact .cons (s.decode_of_spells hf.1 hc) (ih hf.2 hcs)
  | _, .record _ fields ofFields toFields, c, .object ms, hf, h => by
    obtain ⟨-, hn, hf⟩ := hf
    rw [Schema.decode_object, fields.ofMembers_of_spells hn hf h]
    rfl

theorem Fields.ofMembers_of_spells : {σ β : Type} → (fields : Fields σ β) → {b : β} →
    {ms : List (String × Json)} → fields.names.Nodup → fields.Faithful b → fields.Spells b ms →
    fields.ofMembers ms = .ok (fields.overlay b ms)
  | _, _, .nil, _, _, _, _, _ => Fields.ofMembers_nil
  | _, _, .cons name presence s rest, (c, cs), ms, hn, hf, h => by
    rw [Fields.names, List.nodup_cons] at hn
    obtain ⟨hfc, -, hfcs⟩ := hf
    obtain ⟨hc, hcs⟩ := h
    have hrest := Fields.ofMembers_without hn.1 (rest.ofMembers_of_spells hn.2 hfcs hcs)
    refine Fields.ofMembers_cons_iff.2 ⟨?_, hrest⟩
    rw [lookup_eq_head?_valuesUnder]
    rcases hc with ⟨j, hj, hc⟩ | ⟨hnil, hp⟩
    · rw [hj]
      exact .inr ⟨j, rfl, s.decode_of_spells hfc hc⟩
    · rw [hnil]
      obtain ⟨v, hv⟩ := Option.isSome_iff_exists.1 hp
      exact .inl ⟨rfl, by rw [hv]; rfl⟩

end

/-! ### Edits -/

theorem Fields.spells_without : {σ β : Type} → (fields : Fields σ β) → {b : β} →
    {ms : List (String × Json)} → {key : String} → key ∉ fields.required → fields.Spells b ms →
    fields.Spells b (without key ms)
  | _, _, .nil, _, _, _, _, _ => trivial
  | _, _, .cons name presence s rest, (c, cs), ms, key, hkey, hb => by
    obtain ⟨hc, hcs⟩ := hb
    rw [Fields.required] at hkey
    have hrest : key ∉ rest.required := fun h => hkey (by split <;> simp [h])
    refine ⟨?_, rest.spells_without hrest hcs⟩
    by_cases hk : key = name
    · subst hk
      refine .inr ⟨valuesUnder_without_self, ?_⟩
      by_contra hp
      simp [Option.not_isSome_iff_eq_none.1 hp] at hkey
    · rwa [valuesUnder_without_of_ne hk]

theorem Fields.Has.spells {fields : Fields σ β} {key : String} {s : Schema α}
    (hs : fields.Has key s) {b : β} {before after : List (String × Json)} {j j' : Json}
    (h : ∀ c, s.Faithful c → s.Spells c j → s.Spells c j') (hn : fields.names.Nodup)
    (hf : fields.Faithful b) (hb : fields.Spells b (before ++ (key, j) :: after)) :
    fields.Spells b (before ++ (key, j') :: after) := by
  induction hs with
  | head presence rest =>
    obtain ⟨c, cs⟩ := b
    obtain ⟨hc, hcs⟩ := hb
    rw [Fields.names, List.nodup_cons] at hn
    -- the edited member is the only one under its name
    obtain ⟨hbefore, hafter, hj⟩ : valuesUnder key before = [] ∧ valuesUnder key after = [] ∧
        s.Spells c j := by
      rw [valuesUnder_middle] at hc
      rcases hc with ⟨_, hone, hspell⟩ | ⟨hnil, -⟩
      · rcases List.append_eq_singleton_iff.1 hone with ⟨hbefore, hcons⟩ | ⟨-, hcons⟩
        · obtain ⟨rfl, hafter⟩ := List.cons.inj hcons
          exact ⟨hbefore, hafter, hspell⟩
        · contradiction
      · simp at hnil
    refine ⟨.inl ⟨j', ?_, h c hf.1 hj⟩, rest.spells_of_eq (fun name hname => ?_) hcs⟩
    · rw [valuesUnder_middle, hbefore, hafter, List.nil_append]
    · have hne := (ne_of_mem_of_not_mem hname hn.1).symm
      rw [valuesUnder_middle_of_ne hne, valuesUnder_middle_of_ne hne]
  | tail presence t hne _ ih =>
    obtain ⟨c, cs⟩ := b
    obtain ⟨hc, hcs⟩ := hb
    rw [Fields.names, List.nodup_cons] at hn
    rw [valuesUnder_middle_of_ne hne] at hc
    refine ⟨?_, ih hn.2 hf.2.2 hcs⟩
    rwa [valuesUnder_middle_of_ne hne]

theorem forall₂_replace {r : α → Json → Prop} {cs : List α} {before after : List Json}
    {j j' : Json} (h : ∀ c ∈ cs, r c j → r c j') (hcs : List.Forall₂ r cs (before ++ j :: after)) :
    List.Forall₂ r cs (before ++ j' :: after) := by
  induction before generalizing cs with
  | nil =>
    obtain ⟨c, rest, hc, hrest, rfl⟩ := List.forall₂_cons_right_iff.1 hcs
    exact .cons (h c (List.mem_cons_self ..) hc) hrest
  | cons item before ih =>
    obtain ⟨c, rest, hc, hrest, rfl⟩ := List.forall₂_cons_right_iff.1 hcs
    exact .cons hc (ih (fun c hmem => h c (List.mem_cons_of_mem _ hmem)) hrest)

theorem Schema.Edit.ne_null {s : Schema α} {j j' : Json} (h : s.Edit j j') : j ≠ .null := by
  induction h with
  | value _ ih => exact ih
  | _ => simp

/-- An edit keeps what is spelled. -/
theorem Schema.Edit.spells {s : Schema α} {c : α} {j j' : Json} (h : s.Edit j j')
    (hf : s.Faithful c) (hc : s.Spells c j) : s.Spells c j' := by
  induction h with
  | reorder h =>
    exact Fields.spells_congr _ (fun _ _ => (valuesUnder_perm h).symm) hc
  | add h =>
    refine Fields.spells_of_eq _ (fun key hkey => valuesUnder_cons_of_ne ?_) hc
    exact (ne_of_mem_of_not_mem hkey h).symm
  | delete h => exact Fields.spells_without _ h hc
  | member hs _ ih =>
    obtain ⟨-, hn, hf⟩ := hf
    exact hs.spells (fun _ => ih) hn hf hc
  | item _ ih => exact forall₂_replace (fun c hmem => ih (hf c hmem)) hc
  | value h ih =>
    cases c with
    | none => exact absurd hc h.ne_null
    | some c => exact ih (hf c rfl).1 hc

/-- **Whatever edits lead to is read as the value laid over what absent fields are.** -/
theorem Schema.decode_of_edits {s : Schema α} {c : α} {j j' : Json} (hf : s.Faithful c)
    (hj : s.encode c = .ok j) (h : Relation.ReflTransGen s.Edit j j') :
    s.decode j' = .ok (s.overlay c j') := by
  refine s.decode_of_spells hf ?_
  induction h with
  | refl => exact s.spells_encode hf hj
  | tail _ h ih => exact h.spells hf ih

theorem Schema.Lacks.ne_null {s : Schema α} {j : Json} (h : s.Lacks j) : j ≠ .null := by
  induction h with
  | value _ ih => exact ih
  | _ => simp

/-- **Where a member lacks that must be there, nothing is read.** -/
theorem Schema.Lacks.decode_ne_ok {s : Schema α} {j : Json} (h : s.Lacks j) (a : α) :
    s.decode j ≠ .ok a := by
  induction h with
  | missing h hms =>
    intro ha
    rw [Schema.decode_object] at ha
    obtain ⟨b, hb, -⟩ := exists_of_map_eq_ok ha
    exact hms (Fields.mem_of_mem_required _ hb h)
  | member hs hj _ ih =>
    intro ha
    rw [Schema.decode_object] at ha
    obtain ⟨b, hb, -⟩ := exists_of_map_eq_ok ha
    obtain ⟨c, hc⟩ := hs.decode_of_mem hb hj
    exact ih c hc
  | item hj _ ih =>
    intro ha
    obtain ⟨b, hb⟩ := exists_of_mem_of_readAll ha hj
    exact ih b hb
  | value h ih =>
    intro ha
    rw [Schema.decode_optional _ h.ne_null] at ha
    obtain ⟨b, hb, -⟩ := exists_of_map_eq_ok ha
    exact ih b hb

theorem Schema.Lacks.decode_error {s : Schema α} {j : Json} (h : s.Lacks j) :
    ∃ e, s.decode j = .error e := by
  cases hj : s.decode j with
  | error e => exact ⟨e, rfl⟩
  | ok a => exact absurd hj (h.decode_ne_ok a)

end ToolRelay
