import ToolRelay.Proofs.Schema.Decode

/-!
# Reading a record from the members of an object

Members are read one after another, each into the slot of its field; here the result is described
field by field instead.

* `Fields.ofMembers` : what the members of an object say about the fields of a record;
* `Fields.ofMembers_cons_iff` : the first field has the value of its only member, or has none and
  the value of an absent field; the other members say what the other fields are;
* `Fields.ofMembers_congr` : the order of the members and other members do not matter;
* `Fields.mem_of_mem_required` : a field without such a value must be there.
-/

namespace ToolRelay

open Json

variable {α β σ ε : Type}

theorem bind_eq_ok_iff {x : Except ε α} {f : α → Except ε β} {b : β} :
    (do let a ← x; f a) = .ok b ↔ ∃ a, x = .ok a ∧ f a = .ok b := by
  refine ⟨exists_of_bind_eq_ok, ?_⟩
  rintro ⟨a, rfl, h⟩
  exact h

theorem Json.exists_of_mem_of_readAll {decode : Json → Except Complaint α} {js : List Json}
    {as : List α} {j : Json} (h : readAll decode js = .ok as) (hj : j ∈ js) :
    ∃ a, decode j = .ok a := by
  induction readAll_eq_ok_iff.1 h with
  | nil => contradiction
  | cons ha hrest ih =>
    rcases List.mem_cons.1 hj with rfl | hj
    · exact ⟨_, ha⟩
    · exact ih (readAll_eq_ok_iff.2 hrest) hj

namespace Json

/-! ### The members under a name -/

/-- The values of the members named `name`, in order. -/
def valuesUnder (name : String) (ms : List (String × Json)) : List Json :=
  ms.filterMap fun m => if m.1 = name then some m.2 else none

/-- The members that are not named `name`. -/
def without (name : String) (ms : List (String × Json)) : List (String × Json) :=
  ms.filter (·.1 ≠ name)

variable {name key : String} {j : Json} {ms ms' : List (String × Json)}

@[simp] theorem valuesUnder_nil : valuesUnder name [] = [] := rfl

@[simp] theorem valuesUnder_cons_self :
    valuesUnder name ((name, j) :: ms) = j :: valuesUnder name ms := by
  simp [valuesUnder]

theorem valuesUnder_cons_of_ne (h : key ≠ name) :
    valuesUnder name ((key, j) :: ms) = valuesUnder name ms := by
  simp [valuesUnder, h]

theorem valuesUnder_append :
    valuesUnder name (ms ++ ms') = valuesUnder name ms ++ valuesUnder name ms' :=
  List.filterMap_append

theorem valuesUnder_middle {before after : List (String × Json)} :
    valuesUnder name (before ++ (name, j) :: after) =
      valuesUnder name before ++ j :: valuesUnder name after := by
  rw [valuesUnder_append, valuesUnder_cons_self]

theorem valuesUnder_middle_of_ne {before after : List (String × Json)} (h : key ≠ name) :
    valuesUnder name (before ++ (key, j) :: after) = valuesUnder name (before ++ after) := by
  rw [valuesUnder_append, valuesUnder_append, valuesUnder_cons_of_ne h]

theorem valuesUnder_perm (h : ms.Perm ms') :
    (valuesUnder name ms).Perm (valuesUnder name ms') :=
  h.filterMap _

@[simp] theorem without_nil : without name [] = [] := rfl

@[simp] theorem without_cons_self : without name ((name, j) :: ms) = without name ms := by
  simp [without]

theorem without_cons_of_ne (h : key ≠ name) :
    without name ((key, j) :: ms) = (key, j) :: without name ms := by
  simp [without, h]

@[simp] theorem valuesUnder_without_self : valuesUnder name (without name ms) = [] := by
  simp +contextual [valuesUnder, without, List.filterMap_eq_nil_iff]

theorem valuesUnder_without_of_ne (h : key ≠ name) :
    valuesUnder name (without key ms) = valuesUnder name ms := by
  induction ms with
  | nil => rfl
  | cons m ms ih =>
    obtain ⟨k, j⟩ := m
    by_cases hk : k = key
    · subst hk
      rw [without_cons_self, valuesUnder_cons_of_ne h, ih]
    · rw [without_cons_of_ne hk]
      simp only [valuesUnder, List.filterMap_cons] at ih ⊢
      rw [ih]

theorem mem_valuesUnder : j ∈ valuesUnder name ms ↔ (name, j) ∈ ms := by
  simp [valuesUnder]

theorem valuesUnder_eq_nil_iff : valuesUnder name ms = [] ↔ name ∉ ms.map (·.1) := by
  simp only [List.eq_nil_iff_forall_not_mem, mem_valuesUnder, List.mem_map, not_exists, not_and]
  exact ⟨fun h m hm he => h m.2 (he ▸ hm), fun h j hj => h _ hj rfl⟩

theorem lookup_eq_head?_valuesUnder : lookup name ms = (valuesUnder name ms).head? := by
  induction ms with
  | nil => rfl
  | cons m ms ih =>
    obtain ⟨key, j⟩ := m
    by_cases hk : key = name
    · subst hk
      rw [lookup, if_pos rfl, valuesUnder_cons_self, List.head?_cons]
    · rw [lookup, if_neg hk, ih, valuesUnder_cons_of_ne hk]

end Json

/-! ### Reading the fields -/

namespace Fields

/-- What the members of an object say about the fields of a record. -/
def ofMembers (fields : Fields σ β) (ms : List (String × Json)) : Except Complaint β := do
  let slots ← foldMembers fields.decodeMember fields.empty ms
  fields.gather slots

theorem ofMembers_nil {ms : List (String × Json)} : nil.ofMembers ms = .ok () := by
  induction ms with
  | nil => rfl
  | cons m ms ih => exact ih

variable {name key : String} {presence : Presence α} {s : Schema α} {rest : Fields σ β}
  {slot slot' : Option α} {slots slots' : σ} {a : α} {b : β} {ms : List (String × Json)}

theorem decodeMember_self {j : Json} :
    (cons name presence s rest).decodeMember (none, slots) name j =
      (s.decode j).map fun a => (some a, slots) := by
  rw [decodeMember.eq_def]
  simp only [↓reduceIte]
  cases s.decode j <;> rfl

/-- A member that names another field leaves the slot of the first one alone. -/
theorem foldMembers_cons_of_ne {j : Json} (h : key ≠ name) :
    foldMembers (cons name presence s rest).decodeMember (slot, slots) ((key, j) :: ms) =
        .ok (slot', slots') ↔
      ∃ middle, rest.decodeMember slots key j = .ok middle ∧
        foldMembers (cons name presence s rest).decodeMember (slot, middle) ms =
          .ok (slot', slots') := by
  rw [foldMembers, decodeMember_of_ne h, bind_eq_ok_iff]
  constructor
  · rintro ⟨_, hm, hms⟩
    obtain ⟨middle, hmiddle, rfl⟩ := exists_of_map_eq_ok hm
    exact ⟨middle, hmiddle, hms⟩
  · rintro ⟨middle, hm, hms⟩
    exact ⟨(slot, middle), by rw [hm]; rfl, hms⟩

/-- What the slot of the first field holds in the end, and that the members of other names fill the
other slots. -/
theorem foldMembers_cons_iff :
    foldMembers (cons name presence s rest).decodeMember (slot, slots) ms = .ok (slot', slots') ↔
      (valuesUnder name ms = [] ∧ slot' = slot ∨ slot = none ∧ ∃ j a, valuesUnder name ms = [j] ∧
          s.decode j = .ok a ∧ slot' = some a) ∧
        foldMembers rest.decodeMember slots (without name ms) = .ok slots' := by
  induction ms generalizing slot slots with
  | nil =>
    rw [valuesUnder_nil, without_nil, foldMembers, foldMembers]
    simp [eq_comm]
  | cons m ms ih =>
    obtain ⟨key, j⟩ := m
    by_cases hk : key = name
    · subst hk
      rw [valuesUnder_cons_self, without_cons_self, foldMembers]
      cases slot with
      | some a =>
        -- the slot is taken
        rw [decodeMember.eq_def]
        simp only [↓reduceIte, reduceCtorEq, false_and, or_self, iff_false]
        nofun
      | none =>
        rw [decodeMember_self, bind_eq_ok_iff]
        constructor
        · rintro ⟨_, hj, hms⟩
          obtain ⟨a, ha, rfl⟩ := exists_of_map_eq_ok hj
          obtain ⟨⟨hnil, hslot⟩ | ⟨hnone, -⟩, hrest⟩ := ih.1 hms
          · exact ⟨.inr ⟨rfl, j, a, by rw [hnil], ha, hslot⟩, hrest⟩
          · contradiction
        · rintro ⟨⟨hnil, -⟩ | ⟨-, _, a, hj, ha, hslot⟩, hms⟩
          · contradiction
          · obtain ⟨rfl, hnil⟩ := List.cons.inj hj
            exact ⟨(some a, slots), by rw [ha]; rfl, ih.2 ⟨.inl ⟨hnil, hslot⟩, hms⟩⟩
    · rw [foldMembers_cons_of_ne hk, valuesUnder_cons_of_ne hk, without_cons_of_ne hk, foldMembers,
        bind_eq_ok_iff]
      simp only [ih]
      exact ⟨fun ⟨m, hm, hs, hms⟩ => ⟨hs, m, hm, hms⟩, fun ⟨hs, m, hm, hms⟩ => ⟨m, hm, hs, hms⟩⟩

theorem gather_cons_iff :
    (cons name presence s rest).gather (slot, slots) = .ok (a, b) ↔
      (slot = some a ∨ slot = none ∧ presence.value? = some a) ∧ rest.gather slots = .ok b := by
  have hbind (c : α) : (do let b ← rest.gather slots; return (c, b)) = Except.ok (a, b) ↔
      c = a ∧ rest.gather slots = .ok b := by
    rw [bind_eq_ok_iff]
    constructor
    · rintro ⟨b, hb, h⟩
      cases h
      exact ⟨rfl, hb⟩
    · rintro ⟨rfl, hb⟩
      exact ⟨b, hb, rfl⟩
  cases slot with
  | some c => simpa [gather] using hbind c
  | none =>
    rw [gather]
    cases presence.value? with
    | some c => simpa using hbind c
    | none => simp

/-- The first field has the value of its only member, or has none and the value of an absent
field; the other members say what the other fields are. -/
theorem ofMembers_cons_iff :
    (cons name presence s rest).ofMembers ms = .ok (a, b) ↔
      ((valuesUnder name ms = [] ∧ presence.value? = some a) ∨
          ∃ j, valuesUnder name ms = [j] ∧ s.decode j = .ok a) ∧
        rest.ofMembers (without name ms) = .ok b := by
  rw [ofMembers, ofMembers, bind_eq_ok_iff, bind_eq_ok_iff]
  constructor
  · rintro ⟨⟨slot, slots⟩, hms, hg⟩
    obtain ⟨hslot, hrest⟩ := foldMembers_cons_iff.1 hms
    obtain ⟨ha, hb⟩ := gather_cons_iff.1 hg
    refine ⟨?_, slots, hrest, hb⟩
    rcases hslot with ⟨hnil, rfl⟩ | ⟨-, j, c, hj, hc, rfl⟩
    · exact .inl ⟨hnil, by simpa using ha⟩
    · obtain rfl : c = a := by simpa using ha
      exact .inr ⟨j, hj, hc⟩
  · rintro ⟨⟨hnil, hp⟩ | ⟨j, hj, ha⟩, slots, hrest, hb⟩
    · exact ⟨(none, slots), foldMembers_cons_iff.2 ⟨.inl ⟨hnil, rfl⟩, hrest⟩,
        gather_cons_iff.2 ⟨.inr ⟨rfl, hp⟩, hb⟩⟩
    · exact ⟨(some a, slots), foldMembers_cons_iff.2 ⟨.inr ⟨rfl, j, a, hj, ha, rfl⟩, hrest⟩,
        gather_cons_iff.2 ⟨.inl rfl, hb⟩⟩

/-- Only the members under the names of the fields matter. -/
theorem ofMembers_congr : {σ β : Type} → (fields : Fields σ β) → {b : β} →
    {ms ms' : List (String × Json)} →
    (∀ key ∈ fields.names, valuesUnder key ms = valuesUnder key ms') →
    fields.ofMembers ms = .ok b → fields.ofMembers ms' = .ok b
  | _, _, .nil, (), _, _, _, _ => ofMembers_nil
  | _, _, .cons name presence s rest, (a, b), ms, ms', h, hb => by
    obtain ⟨ha, hb⟩ := ofMembers_cons_iff.1 hb
    rw [h name (List.mem_cons_self ..)] at ha
    refine ofMembers_cons_iff.2 ⟨ha, rest.ofMembers_congr (fun key hkey => ?_) hb⟩
    by_cases hk : name = key
    · rw [hk, valuesUnder_without_self, valuesUnder_without_self]
    · rw [valuesUnder_without_of_ne hk, valuesUnder_without_of_ne hk,
        h key (List.mem_cons_of_mem _ hkey)]

theorem ofMembers_without {fields : Fields σ β} (h : key ∉ fields.names)
    (hb : fields.ofMembers ms = .ok b) : fields.ofMembers (without key ms) = .ok b := by
  refine fields.ofMembers_congr (fun name hname => ?_) hb
  rw [valuesUnder_without_of_ne (ne_of_mem_of_not_mem hname h).symm]

/-! ### Fields that must be there -/

/-- The names of the fields that have no value when they are absent. -/
def required : {σ β : Type} → Fields σ β → List String
  | _, _, .nil => []
  | _, _, .cons name presence _ rest =>
    if presence.value?.isNone then name :: rest.required else rest.required

theorem mem_of_mem_required : {σ β : Type} → (fields : Fields σ β) → {b : β} →
    {ms : List (String × Json)} → fields.ofMembers ms = .ok b → key ∈ fields.required →
    key ∈ ms.map (·.1)
  | _, _, .nil, _, _, _, h => nomatch h
  | _, _, .cons name presence s rest, (a, b), ms, hb, h => by
    obtain ⟨ha, hb⟩ := ofMembers_cons_iff.1 hb
    have hrest (hkey : key ∈ rest.required) : key ∈ ms.map (·.1) :=
      List.map_subset _ List.filter_sublist.subset (rest.mem_of_mem_required hb hkey)
    rw [required] at h
    split at h
    · rename_i hp
      rcases List.mem_cons.1 h with rfl | h
      · rcases ha with ⟨-, hv⟩ | ⟨j, hj, -⟩
        · simp [hv] at hp
        · by_contra hnot
          simp [valuesUnder_eq_nil_iff.2 hnot] at hj
      · exact hrest h
    · exact hrest h

/-! ### One of the fields -/

/-- The members named `key` are read into a field that has the schema `s`. -/
inductive Has {α : Type} (key : String) (s : Schema α) : {σ β : Type} → Fields σ β → Prop
  /-- It is the first field. -/
  | head {σ β : Type} (presence : Presence α) (rest : Fields σ β) :
    Has key s (.cons key presence s rest)
  /-- It is a later field. -/
  | tail {σ β γ : Type} {name : String} (presence : Presence γ) (t : Schema γ)
    {rest : Fields σ β} (hne : key ≠ name) (h : Has key s rest) :
    Has key s (.cons name presence t rest)

theorem Has.decode_of_mem {fields : Fields σ β} (h : fields.Has key s) {b : β}
    {ms : List (String × Json)} {j : Json} (hb : fields.ofMembers ms = .ok b)
    (hj : (key, j) ∈ ms) : ∃ a, s.decode j = .ok a := by
  induction h generalizing ms with
  | head presence rest =>
    rcases (ofMembers_cons_iff.1 hb).1 with ⟨hnil, -⟩ | ⟨j', hj', ha⟩
    · simp [← mem_valuesUnder, hnil] at hj
    · rw [← mem_valuesUnder, hj', List.mem_singleton] at hj
      exact ⟨_, hj ▸ ha⟩
  | tail presence t hne _ ih =>
    exact ih (ofMembers_cons_iff.1 hb).2 (List.mem_filter.2 ⟨hj, by simpa using hne⟩)

end Fields

namespace Schema

theorem decode_object {name : String} {fields : Fields σ β} {ofFields : β → α} {toFields : α → β}
    {ms : List (String × Json)} :
    (Schema.record name fields ofFields toFields).decode (.object ms) =
      (fields.ofMembers ms).map ofFields := by
  rw [Schema.decode, Fields.ofMembers]
  cases foldMembers fields.decodeMember fields.empty ms with
  | error e => rfl
  | ok slots => rfl

end Schema

end ToolRelay
