import ToolRelay.Proofs.Json.Leads
import ToolRelay.Proofs.Schema.Lossless

/-!
# What is read can be written

A value `Schema.Writes` if it is written as a plain JSON value, one that reads back as itself.  Not
every value does: a path need not be text, and a JSON value may hold floating-point numbers.  But
what a schema has read from a text whose number literals are integers does
(`Schema.keeps_writes`), provided that the values given to absent fields do (`Schema.Complete`).
-/

namespace ToolRelay

open Json Json.Reader

variable {α β σ : Type} {d : Nat}

/-- The value is written as one that a reader with `d` levels to go can read. -/
def Schema.Writes (s : Schema α) (d : Nat) (a : α) : Prop := ∃ j, s.encode a = .ok j ∧ Plain d j

/-- The fields are written as members with such values. -/
def Fields.Writes (fields : Fields σ β) (d : Nat) (b : β) : Prop :=
  ∃ ms, fields.encode b = .ok ms ∧ ∀ m ∈ ms, Plain d m.2

/-! ### Writing values from their parts -/

theorem Fields.writes_nil : Fields.nil.Writes d () := ⟨[], by rw [Fields.encode], nofun⟩

theorem Fields.writes_cons {name : String} {presence : Presence α} {s : Schema α}
    {rest : Fields σ β} {a : α} {b : β} (ha : s.Writes d a) (hb : rest.Writes d b) :
    (Fields.cons name presence s rest).Writes d (a, b) := by
  obtain ⟨value, hv, hp⟩ := ha
  obtain ⟨others, ho, hps⟩ := hb
  obtain h | h := Fields.encode_cons_cases hv ho
  · exact ⟨others, h, hps⟩
  · exact ⟨_, h, List.forall_mem_cons.2 ⟨hp, hps⟩⟩

theorem Schema.writes_record {name : String} {fields : Fields σ β} {ofFields : β → α}
    {toFields : α → β} {a : α} (hn : fields.names.Nodup) (h : fields.Writes (d + 1) (toFields a)) :
    (Schema.record name fields ofFields toFields).Writes (d + 2) a := by
  obtain ⟨ms, hms, hp⟩ := h
  refine ⟨.object ms, by rw [Schema.encode, hms]; rfl, .object ?_ hp⟩
  exact (fields.sublist_names hms).nodup hn

theorem Schema.writes_list {s : Schema α} {as : List α} (h : ∀ a ∈ as, s.Writes (d + 1) a) :
    s.list.Writes (d + 2) as := by
  obtain ⟨js, hjs, hp⟩ := exists_mapM_eq_ok h
  exact ⟨.array js, by rw [Schema.encode, hjs]; rfl, .array hp⟩

theorem Schema.writes_none {s : Schema α} : s.optional.Writes (d + 1) none := ⟨.null, rfl, .null⟩

theorem Schema.writes_absent {s : Schema α} (a : Option α) (h : some none = some a) (d : Nat) :
    s.optional.Writes (d + 1) a := by
  cases h
  exact writes_none

theorem Schema.writes_some {s : Schema α} {a : α} (h : s.Writes d a) :
    s.optional.Writes d (some a) := h

/-! ### Reading by a schema -/

namespace Json.Reader

namespace Leads

variable {pre : List Char → Prop} {post : α → List Char → Prop}

theorem valueAhead :
    Leads (IntegralFrom .outside) valueAhead fun c s =>
      IntegralFrom .outside s ∧ s.head? = some c := by
  refine .peekFull_bind fun x => ?_
  split
  · exact .failAhead _
  · exact .pure fun _ hs => hs

theorem failKind (expected : String) : Leads pre (failKind expected) post := of_gives (.failKind _)

theorem ofExcept {r : Except Complaint α} :
    Leads pre (ofExcept r) fun a s => r = .ok a ∧ pre s := by
  cases r with
  | error e => exact .failUnplaced e
  | ok a => exact .pure fun _ hs => ⟨rfl, hs⟩

theorem textValue (expected : String) :
    Leads (IntegralFrom .outside) (textValue expected) fun _ s => IntegralFrom .outside s := by
  refine .placed (.bind .valueAhead fun c => ?_)
  split_ifs with hc
  · subst hc
    exact .quote_bind .text
  · exact .failKind _

theorem integer (expected : String) (check : Int → Except Complaint α) :
    Leads (IntegralFrom .outside) (integer expected check) fun a s =>
      (∃ n, check n = .ok a) ∧ IntegralFrom .outside s := by
  refine .placed (.bind .valueAhead fun c => ?_)
  have hcheck (f : Json → Reader α) (hf : ∀ n, f (.int n) = Reader.ofExcept (check n)) (j : Json) :
      Leads (fun s => IsInt j ∧ IntegralFrom .outside s) (f j)
        fun a s => (∃ n, check n = .ok a) ∧ IntegralFrom .outside s := by
    rintro c a c' ⟨⟨n, -, -, rfl⟩, hs⟩ ha
    rw [hf] at ha
    have h := ofExcept c a c' hs ha
    exact ⟨⟨n, h.1⟩, h.2⟩
  split_ifs with hc hsign
  · subst hsign
    exact .sign_bind (.bind .number_true (hcheck _ fun _ => rfl))
  · have hdigit : isDigit c = true := hc.resolve_left hsign
    have hnumber : Leads (fun s => IntegralFrom .outside s ∧ s.head? = some c)
        (number (c == '-')) fun j s => IsInt j ∧ IntegralFrom .outside s := by
      rw [beq_false_of_ne hsign]
      exact .number_false hdigit
    exact .bind hnumber (hcheck _ fun _ => rfl)
  · exact .failKind _

end Leads

/-- Whatever a choice is read from, what comes after it lies ahead then. -/
theorem leads_choice (c : Choice α) (d : Nat) :
    Leads (IntegralFrom .outside) (c.readText d) fun _ s => IntegralFrom .outside s := by
  have hread (name : String) : Leads (IntegralFrom .outside) (Reader.ofExcept (c.read name))
      fun _ s => IntegralFrom .outside s := fun _ _ _ hc ha => (Leads.ofExcept _ _ _ hc ha).2
  refine .placed (.bind .valueAhead fun x => ?_)
  split
  · exact .quote_bind (.bind .text hread)
  · split_ifs
    · exact .failAhead _
    · refine .advance_bind (by decide) (.bind .skipBlanks fun _ => .bind (.textValue _) fun name =>
        .bind (hread name) fun a => .bind .colon fun _ => .bind .valueAhead fun y => ?_)
      extract_lets rest
      have hrest : Leads (IntegralFrom .outside) (rest ()) fun _ s => IntegralFrom .outside s := by
        refine .peekFull_bind fun z => ?_
        split
        · exact .advance_bind (by decide) (.pure fun _ hs => hs)
        · exact .failHere _
        · exact .failHere _
      split_ifs with hn
      · subst hn
        exact .word_bind (by decide) hrest
      · exact .bind (.failKind _) fun _ => hrest
  · exact .failAhead _

end Json.Reader

/-! ### What is read can be written -/

mutual

/-- The values that absent fields get can be written. -/
def Schema.Complete : {α : Type} → Schema α → Prop
  | _, .optional s => s.Complete
  | _, .list s => s.Complete
  | _, .record _ fields _ _ => fields.Complete
  | _, _ => True

/-- The values that these fields get when they are absent, and those inside of them, can be
written. -/
def Fields.Complete : {σ β : Type} → Fields σ β → Prop
  | _, _, .nil => True
  | _, _, .cons _ presence s rest =>
    (∀ a, presence.value? = some a → ∀ d, s.Writes (d + 1) a) ∧ s.Complete ∧ rest.Complete

end

/-- What has been read so far can be written. -/
def Fields.HoldsWritten (d : Nat) : {σ β : Type} → Fields σ β → σ → Prop
  | _, _, .nil, _ => True
  | _, _, .cons _ _ s rest, (slot, slots) =>
    (∀ a, slot = some a → s.Writes d a) ∧ rest.HoldsWritten d slots

theorem Fields.holdsWritten_empty (d : Nat) :
    {σ β : Type} → (fields : Fields σ β) → fields.HoldsWritten d fields.empty
  | _, _, .nil => trivial
  | _, _, .cons _ _ _ rest => by
    refine ⟨?_, rest.holdsWritten_empty d⟩
    rintro a ⟨⟩

theorem Fields.writes_of_gather : {σ β : Type} → (fields : Fields σ β) → {slots : σ} → {b : β} →
    fields.Complete → fields.HoldsWritten (d + 1) slots → fields.gather slots = .ok b →
    fields.Writes (d + 1) b
  | _, _, .nil, _, _, _, _, _ => Fields.writes_nil
  | _, _, .cons _ _ _ rest, (some a, slots), _, hc, hh, hg => by
    obtain ⟨b, hb, hg⟩ := exists_of_bind_eq_ok hg
    cases hg
    exact Fields.writes_cons (hh.1 a rfl) (rest.writes_of_gather hc.2.2 hh.2 hb)
  | _, _, .cons _ presence _ rest, (none, slots), _, hc, hh, hg => by
    rw [Fields.gather] at hg
    split at hg
    · rename_i a hp
      obtain ⟨b, hb, hg⟩ := exists_of_bind_eq_ok hg
      cases hg
      exact Fields.writes_cons (hc.1 a hp d) (rest.writes_of_gather hc.2.2 hh.2 hb)
    · contradiction

mutual

/-- **What is read can be written**: in a text whose numbers are integers, whatever a schema reads
is written as a plain value. -/
theorem Schema.keeps_writes : {α : Type} → (s : Schema α) → {d : Nat} → s.Lossless → s.Complete →
    Keeps (s.readText (d + 1)) (s.Writes (d + 1))
  | _, .text, d, _, _ => by
    rw [Schema.readText]
    exact fun c a c' hc ha => ⟨⟨.text a, rfl, .text a⟩, Leads.textValue _ c a c' hc ha⟩
  | _, .path, d, _, _ => by
    rw [Schema.readText]
    refine .bind (.textValue _) fun x => Keeps.pure ⟨.text x, ?_, .text x⟩
    rw [Schema.encode, Path.toString?, Path.ofString, Utf8.decode?_encode]
  | _, .flag, d, _, _ => by
    have hflag (b : Bool) : Schema.flag.Writes (d + 1) b := ⟨.bool b, rfl, .bool b⟩
    rw [Schema.readText]
    refine .placed (.bind .valueAhead fun x => ?_)
    split
    · exact .word_bind (by decide) (Keeps.pure (hflag true))
    · exact .word_bind (by decide) (Keeps.pure (hflag false))
    · exact .failKind _
  | _, .count, d, _, _ => by
    rw [Schema.readText]
    intro c m c' hc hm
    obtain ⟨⟨n, hn⟩, hs⟩ := Leads.integer _ _ c m c' hc hm
    have hle := Schema.readCount_le hn
    exact ⟨⟨.int m, rfl, .int (by omega) (by unfold maxInt; omega)⟩, hs⟩
  | _, .code, d, _, _ => by
    rw [Schema.readText]
    intro c m c' hc hm
    obtain ⟨⟨n, hn⟩, hs⟩ := Leads.integer _ _ c m c' hc hm
    have hb := Schema.readCode_bounds hn
    exact ⟨⟨.int m, rfl, .int hb.1 (by unfold maxInt; omega)⟩, hs⟩
  | _, .any, d, _, _ => by
    rw [Schema.readText]
    exact fun c j c' hc hj => (keeps_value _ c j c' hc hj).imp_left fun h => ⟨j, rfl, h⟩
  | _, .optional s, d, hl, hc => by
    rw [Schema.readText]
    refine .peekFull_bind fun x => ?_
    split
    · exact .word_bind (by decide) (Keeps.pure Schema.writes_none)
    · exact .forget (Keeps.andThen (s.keeps_writes hl hc) fun a ha =>
        Keeps.pure (Schema.writes_some ha))
  | _, .list s, d, hl, hc => by
    rw [Schema.readText]
    refine .placed (.bind .valueAhead fun x => ?_)
    split
    · split_ifs with hd
      · exact .failAhead _
      · obtain ⟨d, rfl⟩ := Nat.exists_eq_succ_of_ne_zero (by omega : d ≠ 0)
        refine .inArray (.bind .room fun n => ?_)
        intro c as c' hcur has
        refine (Keeps.items (s.keeps_writes hl hc) ?_ c as c' hcur has).imp_left Schema.writes_list
        exact nofun
    · exact .failKind _
  | _, .choice c, d, _, _ => by
    rw [Schema.readText]
    exact fun cur a c' hc ha => ⟨⟨.text (c.name a), rfl, .text _⟩, leads_choice c _ cur a c' hc ha⟩
  | _, .record name fields ofFields toFields, d, hl, hc => by
    obtain ⟨hof, hn, hl⟩ := hl
    have hrecord {d b} (h : fields.Writes (d + 1) b) :
        (Schema.record name fields ofFields toFields).Writes (d + 2) (ofFields b) :=
      Schema.writes_record hn ((hof b).symm ▸ h)
    rw [Schema.readText]
    refine .placed (.bind .valueAhead fun x => ?_)
    split
    · split_ifs with hd
      · exact .failAhead _
      · obtain ⟨d, rfl⟩ := Nat.exists_eq_succ_of_ne_zero (by omega : d ≠ 0)
        exact .inArray (Keeps.andThen (fields.items_keep_writes hl hc) fun b hb =>
          Keeps.pure (hrecord hb))
    · split_ifs with hd
      · exact .failAhead _
      · obtain ⟨d, rfl⟩ := Nat.exists_eq_succ_of_ne_zero (by omega : d ≠ 0)
        exact .inObject (.bind .room fun n => Keeps.andThen (.members (fun key slots hs =>
          fields.member_keeps_written hl hc hs) (fields.holdsWritten_empty _)) fun slots hs =>
            .bind .ofExcept fun b => .pure fun _ hb =>
              ⟨hrecord (fields.writes_of_gather hc hs hb.1), hb.2⟩)
    · exact .failKind _

theorem Fields.items_keep_writes : {σ β : Type} → (fields : Fields σ β) → {d : Nat} →
    {record : String} → {total index : Nat} → fields.Lossless → fields.Complete →
    Keeps (fields.readItems (d + 1) record total index) (fields.Writes (d + 1))
  | _, _, .nil, _, _, _, _, _, _ => Keeps.pure Fields.writes_nil
  | _, _, .cons name presence s rest, d, record, total, index, hl, hc => by
    rw [Fields.readItems]
    refine .bind (.hasItem _) fun more => ?_
    split
    · exact Keeps.andThen (s.keeps_writes hl.1 hc.2.1) fun a ha =>
        Keeps.andThen (rest.items_keep_writes hl.2.2.2 hc.2.2) fun b hb =>
          Keeps.pure (Fields.writes_cons ha hb)
    · split
      · rename_i a hp
        exact Keeps.andThen (rest.items_keep_writes hl.2.2.2 hc.2.2) fun b hb =>
          Keeps.pure (Fields.writes_cons (hc.1 a hp d) hb)
      · exact .failUnplaced _

theorem Fields.member_keeps_written : {σ β : Type} → (fields : Fields σ β) → {d : Nat} →
    {key : String} → {slots : σ} → fields.Lossless → fields.Complete →
    fields.HoldsWritten (d + 1) slots →
    Keeps (fields.readMember (d + 1) key slots) (fields.HoldsWritten (d + 1))
  | _, _, .nil, _, _, _, _, _, _ => by
    rw [Fields.readMember]
    exact .bind .colon fun _ => .bind leads_skipValue fun _ => Keeps.pure trivial
  | _, _, .cons name presence s rest, d, key, (slot, slots), hl, hc, hh => by
    rw [Fields.readMember.eq_def]
    simp only
    split
    · split
      · exact .failUnplaced _
      · refine .bind .colon fun _ => Keeps.andThen (s.keeps_writes hl.1 hc.2.1) fun a ha =>
          Keeps.pure ⟨?_, hh.2⟩
        rintro _ ⟨⟩
        exact ha
    · exact Keeps.andThen (rest.member_keeps_written hl.2.2.2 hc.2.2 hh.2) fun slots hs =>
        Keeps.pure ⟨hh.1, hs⟩

end

/-- A whole text whose numbers are integers is read as a value that is written as a plain one. -/
theorem Schema.writes_of_parse (s : Schema α) (hl : s.Lossless) (hc : s.Complete) {input : String}
    {a : α} (hi : Integral input) (h : s.parse input = .ok a) : s.Writes maxDepth a := by
  obtain ⟨c, ha⟩ := exists_of_run_eq_ok h
  exact (s.keeps_writes hl hc (Text.Cursor.start input) a c hi ha).1

end ToolRelay
