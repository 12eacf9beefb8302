import ToolRelay.Proofs.Json.Gives
import ToolRelay.Proofs.Schema.Decode
import ToolRelay.Schema.OfText

/-!
# What is read can be written without loss

`Schema.Lossless` asks of a schema what makes it lose nothing: the names of a choice and the parts
of a record can be told from the value, and a value that is given to an absent field is one that
can be written.  `Schema.faithful_of_parse` : whatever such a schema reads from a text is faithful.
In particular an optional value that is read is never a `null` in disguise.
-/

namespace ToolRelay

open Json Json.Reader

variable {α β σ : Type}

mutual

/-- Whatever is read by the schema is written without loss. -/
def Schema.Lossless : {α : Type} → Schema α → Prop
  | _, .optional s => s.Lossless
  | _, .list s => s.Lossless
  | _, .choice c => ∀ name a, c.find? name = some a → c.read (c.name a) = .ok a
  | _, .record _ fields ofFields toFields =>
    (∀ b, toFields (ofFields b) = b) ∧ fields.names.Nodup ∧ fields.Lossless
  | _, _ => True

/-- Whatever is read into the fields, or given to them when they are absent, is written without
loss. -/
def Fields.Lossless : {σ β : Type} → Fields σ β → Prop
  | _, _, .nil => True
  | _, _, .cons _ presence s rest =>
    s.Lossless ∧ (∀ a, presence.value? = some a → s.Faithful a) ∧
      (∀ a, s.Faithful a → presence.Restores s a) ∧ rest.Lossless

end

theorem Schema.faithful_absent {s : Schema α} (a : Option α) (h : some none = some a) :
    s.optional.Faithful a := by
  cases h
  exact nofun

/-- What has been read so far is written without loss. -/
def Fields.Holds : {σ β : Type} → Fields σ β → σ → Prop
  | _, _, .nil, _ => True
  | _, _, .cons _ _ s rest, (slot, slots) => (∀ a, slot = some a → s.Faithful a) ∧ rest.Holds slots

namespace Fields

theorem holds_empty : {σ β : Type} → (fields : Fields σ β) → fields.Holds fields.empty
  | _, _, .nil => trivial
  | _, _, .cons _ _ _ rest => ⟨nofun, rest.holds_empty⟩

theorem faithful_of_gather : {σ β : Type} → (fields : Fields σ β) → {slots : σ} → {b : β} →
    fields.Lossless → fields.Holds slots → fields.gather slots = .ok b → fields.Faithful b
  | _, _, .nil, _, _, _, _, _ => trivial
  | _, _, .cons _ _ _ rest, (some a, slots), _, hl, hh, hg => by
    obtain ⟨b, hb, hg⟩ := exists_of_bind_eq_ok hg
    cases hg
    have ha := hh.1 a rfl
    exact ⟨ha, hl.2.2.1 a ha, rest.faithful_of_gather hl.2.2.2 hh.2 hb⟩
  | _, _, .cons _ presence _ rest, (none, slots), _, hl, hh, hg => by
    rw [Fields.gather] at hg
    split at hg
    · rename_i a hp
      obtain ⟨b, hb, hg⟩ := exists_of_bind_eq_ok hg
      cases hg
      have ha := hl.2.1 a hp
      exact ⟨ha, hl.2.2.1 a ha, rest.faithful_of_gather hl.2.2.2 hh.2 hb⟩
    · contradiction

end Fields

/-! ### Values that are not written as `null` -/

namespace Json.Reader.Gives

variable {P : α → Prop}

theorem ofExcept {r : Except Complaint α} (h : ∀ a, r = .ok a → P a) : Gives (ofExcept r) P := by
  cases r with
  | error e => exact failUnplaced e
  | ok a => exact pure (h a rfl)

theorem failKind (expected : String) : Gives (failKind expected) P := by
  refine placed (after fun c => ?_)
  split
  · exact after fun _ => after fun _ => failUnplaced _
  · exact after fun _ => after fun _ => failUnplaced _
  · exact after fun _ => after fun _ => failUnplaced _
  · exact after fun _ => after fun _ => failUnplaced _
  · exact after fun _ => after fun _ => failUnplaced _
  · exact failUnplaced _
  · exact failUnplaced _
  · split_ifs
    · exact after fun _ => failUnplaced _
    · exact failAhead _
  · exact failAhead _

theorem integer (expected : String) {check : Int → Except Complaint α}
    (h : ∀ n a, check n = .ok a → P a) : Gives (integer expected check) P := by
  refine placed (after fun c => ?_)
  split
  · extract_lets rest
    have hrest : Gives (rest ()) P := by
      refine after fun j => ?_
      split
      · exact ofExcept fun a ha => h _ a ha
      · exact failUnplaced _
    split
    · exact after fun _ => hrest
    · exact hrest
  · exact failKind _

theorem choice {c : Choice α} (h : ∀ name a, c.find? name = some a → P a) {d : Nat} :
    Gives (c.readText d) P := by
  have hread (name : String) : Gives (Reader.ofExcept (c.read name)) P := by
    refine ofExcept fun a ha => h name a ?_
    rw [Choice.read] at ha
    split at ha
    · cases ha
      assumption
    · contradiction
  refine placed (after fun x => ?_)
  split
  · exact after fun _ => after fun name => hread name
  · split_ifs
    · exact failAhead _
    · refine after fun _ => after fun _ => after fun name => bind (hread name) fun a ha => ?_
      refine after fun _ => after fun y => ?_
      extract_lets rest
      have hrest : Gives (rest ()) P := by
        refine after fun z => ?_
        split
        · exact after fun _ => pure ha
        · exact failHere _
        · exact failHere _
      split
      · exact after fun _ => after fun _ => hrest
      · exact after fun _ => hrest
  · exact failAhead _

end Json.Reader.Gives

theorem Schema.readCount_le {n : Int} {m : Nat} (h : Schema.readCount n = .ok m) :
    m ≤ 0xFFFFFFFFFFFFFFFF := by
  obtain ⟨k, hk, rfl⟩ := exists_of_map_eq_ok h
  rw [Schema.inRange] at hk
  split_ifs at hk with hr
  cases hk
  omega

theorem Schema.readCode_bounds {n m : Int} (h : Schema.readCode n = .ok m) :
    -0x8000000000000000 ≤ m ∧ m ≤ 0x7FFFFFFFFFFFFFFF := by
  rw [Schema.readCode, Schema.inRange] at h
  split_ifs at h with hr
  cases h
  exact hr

/-- A value that is read where no `n` begins is not written as `null`. -/
theorem Schema.encode_ne_null : {α : Type} → (s : Schema α) → {d : Nat} →
    {c c' : Text.Cursor} → {a : α} → (∀ c'', peekFull c ≠ .ok (some 'n') c'') →
    s.readText d c = .ok a c' → s.encode a ≠ .ok .null
  | _, .text, _, _, _, _, _, _ => nofun
  | _, .path, _, _, _, _, _, _ => by
    rw [Schema.encode]
    split <;> simp
  | _, .flag, _, _, _, _, _, _ => nofun
  | _, .count, _, _, _, _, _, _ => nofun
  | _, .code, _, _, _, _, _, _ => nofun
  | _, .any, _, _, _, _, hc, h => fun he => value_ne_null hc h (Except.ok.inj he)
  | _, .optional s, _, c, _, _, hc, h => by
    rw [Schema.readText] at h
    obtain ⟨x, c'', hx, h⟩ := bind_eq_ok h
    split at h
    · exact absurd hx (hc c'')
    · obtain ⟨b, c₃, hb, h⟩ := bind_eq_ok h
      cases h
      refine s.encode_ne_null (fun c₄ hn => ?_) hb
      -- the inner schema sees the same character ahead
      rw [peekFull_of_peekFull hx] at hn
      obtain ⟨rfl, -⟩ := EStateM.Result.ok.inj hn
      exact hc c'' hx
  | _, .list _, _, _, _, _, _, _ => fun h => by
    obtain ⟨_, -, h⟩ := exists_of_map_eq_ok h
    contradiction
  | _, .choice _, _, _, _, _, _, _ => nofun
  | _, .record .., _, _, _, _, _, _ => fun h => by
    obtain ⟨_, -, h⟩ := exists_of_map_eq_ok h
    contradiction

/-! ### Values that are written without loss -/

mutual

theorem Schema.gives_faithful : {α : Type} → (s : Schema α) → {d : Nat} → s.Lossless →
    Gives (s.readText d) s.Faithful
  | _, .text, _, _ => fun _ _ _ _ => trivial
  | _, .path, _, _ => fun _ _ _ _ => trivial
  | _, .flag, _, _ => fun _ _ _ _ => trivial
  | _, .count, _, _ => .integer _ fun _ _ => Schema.readCount_le
  | _, .code, _, _ => .integer _ fun _ _ => Schema.readCode_bounds
  | _, .any, _, _ => fun _ _ _ _ => trivial
  | _, .optional s, d, hl => by
    intro c a c' h
    rw [Schema.readText] at h
    obtain ⟨x, c'', hx, h⟩ := bind_eq_ok h
    split at h
    · obtain ⟨-, c₃, -, h⟩ := bind_eq_ok h
      obtain ⟨-, c₄, -, h⟩ := bind_eq_ok h
      cases h
      exact nofun
    · rename_i hn
      obtain ⟨b, c₃, hb, h⟩ := bind_eq_ok h
      cases h
      rintro b ⟨⟩
      refine ⟨s.gives_faithful hl _ _ _ hb, s.encode_ne_null (fun c₄ hx' => ?_) hb⟩
      -- the next character is no `n`, so the value is not written as `null`
      rw [peekFull_of_peekFull hx] at hx'
      exact hn (EStateM.Result.ok.inj hx').1
  | _, .list s, d, hl => by
    rw [Schema.readText]
    refine .placed (.after fun x => ?_)
    split
    · split_ifs
      · exact .failAhead _
      · exact .inArray (.after fun _ => .items (s.gives_faithful hl) nofun)
    · exact .failKind _
  | _, .choice c, d, hl => .choice hl
  | _, .record name fields ofFields toFields, d, hl => by
    obtain ⟨hof, hn, hl⟩ := hl
    -- a record is faithful whether its fields came in an array or in an object
    have hfaithful {b} (hb : fields.Faithful b) :
        (Schema.record name fields ofFields toFields).Faithful (ofFields b) :=
      ⟨congrArg ofFields (hof b), hn, (hof b).symm ▸ hb⟩
    rw [Schema.readText]
    refine .placed (.after fun x => ?_)
    split
    · split_ifs
      · exact .failAhead _
      · exact .inArray (.bind (fields.items_give_faithful hl) fun b hb => .pure (hfaithful hb))
    · split_ifs
      · exact .failAhead _
      · refine .inObject (.after fun _ => .bind
          (.members (fun key slots hs => fields.member_gives_holds hl hs) fields.holds_empty)
          fun slots hs => .bind (.ofExcept fun b => fields.faithful_of_gather hl hs)
            fun b hb => .pure (hfaithful hb))
    · exact .failKind _

theorem Fields.items_give_faithful : {σ β : Type} → (fields : Fields σ β) → {d : Nat} →
    {record : String} → {total index : Nat} → fields.Lossless →
    Gives (fields.readItems d record total index) fields.Faithful
  | _, _, .nil, _, _, _, _, _ => .pure trivial
  | _, _, .cons name presence s rest, d, record, total, index, hl => by
    obtain ⟨hs, hdefault, hrestores, hrest⟩ := hl
    rw [Fields.readItems]
    refine .after fun more => ?_
    split
    · exact .bind (s.gives_faithful hs) fun a ha =>
        .bind (rest.items_give_faithful hrest) fun b hb => .pure ⟨ha, hrestores a ha, hb⟩
    · split
      · rename_i a hp
        have ha := hdefault a hp
        exact .bind (rest.items_give_faithful hrest) fun b hb => .pure ⟨ha, hrestores a ha, hb⟩
      · exact .failUnplaced _

theorem Fields.member_gives_holds : {σ β : Type} → (fields : Fields σ β) → {d : Nat} →
    {key : String} → {slots : σ} → fields.Lossless → fields.Holds slots →
    Gives (fields.readMember d key slots) fields.Holds
  | _, _, .nil, _, _, _, _, _ => fun _ _ _ _ => trivial
  | _, _, .cons name presence s rest, d, key, (slot, slots), hl, hh => by
    rw [Fields.readMember.eq_def]
    simp only
    split
    · split
      · exact .failUnplaced _
      · refine .after fun _ => .bind (s.gives_faithful hl.1) fun a ha => .pure ⟨?_, hh.2⟩
        rintro _ ⟨⟩
        exact ha
    · exact .bind (rest.member_gives_holds hl.2.2.2 hh.2) fun slots hs => .pure ⟨hh.1, hs⟩

end

/-- **Whatever is read from a text is written without loss.** -/
theorem Schema.faithful_of_parse (s : Schema α) (hl : s.Lossless) {input : String} {a : α}
    (h : s.parse input = .ok a) : s.Faithful a := by
  obtain ⟨c, hc⟩ := exists_of_run_eq_ok h
  exact s.gives_faithful hl _ _ _ hc

end ToolRelay
