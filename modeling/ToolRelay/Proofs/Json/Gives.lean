import Mathlib.Tactic.SplitIfs
import ToolRelay.Json.Value
import ToolRelay.Proofs.Text.Split

/-!
# What a reader can give

`Gives r P` says that whatever `r` gives satisfies `P`, wherever it reads.  A reader that fails
gives nothing, so the places where it gives up need no attention.

* `Gives.bind`, `Gives.placed`, `Gives.inArray`, `Gives.inObject` : readers put together.
* `Gives.items`, `Gives.members` : what holds of each item holds of all, and what each member
  keeps is kept.
* `value_ne_null` : only `null` begins with an `n`.
-/

namespace ToolRelay

namespace Json

namespace Reader

variable {α β : Type}

/-- Whatever `r` gives satisfies `P`. -/
def Gives (r : Reader α) (P : α → Prop) : Prop := ∀ c a c', r c = .ok a c' → P a

theorem bind_eq_ok {r : Reader α} {f : α → Reader β} {c c'' : Text.Cursor} {b : β}
    (h : (r >>= f) c = .ok b c'') : ∃ a c', r c = .ok a c' ∧ f a c' = .ok b c'' := by
  change EStateM.bind r f c = _ at h
  rw [EStateM.bind] at h
  cases hr : r c with
  | error e c' => rw [hr] at h; contradiction
  | ok a c' => rw [hr] at h; exact ⟨a, c', rfl, h⟩

theorem placed_eq_ok {r : Reader α} {c c' : Text.Cursor} {a : α} (h : placed r c = .ok a c') :
    r c = .ok a c' := by
  rw [placed] at h
  cases hr : r c with
  | error e c' => rw [hr] at h; contradiction
  | ok a c' => rw [hr] at h; exact h

/-- What is read from a whole text is what is read at its beginning. -/
theorem exists_of_run_eq_ok {r : Reader α} {input : String} {a : α} (h : run r input = .ok a) :
    ∃ c, r (Text.Cursor.start input) = .ok a c := by
  rw [run] at h
  split at h
  · rename_i hr
    cases h
    obtain ⟨b, c, hb, hr⟩ := bind_eq_ok hr
    obtain ⟨-, c', -, hr⟩ := bind_eq_ok hr
    cases hr
    exact ⟨c, hb⟩
  · contradiction

namespace Gives

variable {P : α → Prop} {Q : β → Prop}

/-! ### Readers put together -/

theorem pure {a : α} (h : P a) : Gives (Pure.pure a) P := by
  rintro _ _ _ ⟨⟩
  exact h

theorem failHere (complaint : Complaint) : Gives (failHere complaint) P := fun _ _ _ => nofun

theorem failAhead (complaint : Complaint) : Gives (failAhead complaint) P := fun _ _ _ => nofun

theorem failUnplaced (complaint : Complaint) : Gives (failUnplaced complaint) P :=
  fun _ _ _ => nofun

theorem bind {r : Reader α} {f : α → Reader β} (h : Gives r P) (h' : ∀ a, P a → Gives (f a) Q) :
    Gives (r >>= f) Q := by
  intro c b c'' hb
  obtain ⟨a, c', ha, hb⟩ := bind_eq_ok hb
  exact h' a (h c a c' ha) c' b c'' hb

/-- Nothing needs to be known of what comes first. -/
theorem after {r : Reader α} {f : α → Reader β} (h : ∀ a, Gives (f a) Q) : Gives (r >>= f) Q := by
  intro c b c'' hb
  obtain ⟨a, c', -, hb⟩ := bind_eq_ok hb
  exact h a c' b c'' hb

theorem placed {r : Reader α} (h : Gives r P) : Gives (placed r) P := fun c a c' ha =>
  h c a c' (placed_eq_ok ha)

theorem closedBy {inner : Reader α} {closing : Reader Unit} (h : Gives inner P) :
    Gives (closedBy inner closing) P := by
  intro c a c' ha
  rw [Reader.closedBy] at ha
  cases hi : inner c with
  | error e c' =>
    rw [hi] at ha
    simp only at ha
    split at ha <;> contradiction
  | ok b c'' =>
    rw [hi] at ha
    simp only at ha
    split at ha
    · obtain ⟨rfl, -⟩ := EStateM.Result.ok.inj ha
      exact h c b c'' hi
    · contradiction

theorem inArray {inner : Reader α} (h : Gives inner P) : Gives (inArray inner) P :=
  after fun _ => closedBy h

theorem inObject {inner : Reader α} (h : Gives inner P) : Gives (inObject inner) P :=
  after fun _ => closedBy h

/-- What holds of each item holds of all. -/
theorem items {item : Reader α} (h : Gives item P) {fuel : Nat} {done : List α}
    (hd : ∀ a ∈ done, P a) : Gives (items item fuel done) (fun as => ∀ a ∈ as, P a) := by
  induction fuel generalizing done with
  | zero => exact failHere _
  | succ fuel ih =>
    refine after fun more => ?_
    split
    · exact bind h fun a ha => ih (List.forall_mem_cons.2 ⟨ha, hd⟩)
    · exact pure fun a ha => hd a (List.mem_reverse.1 ha)

/-- What each member keeps is kept. -/
theorem members {member : String → α → Reader α}
    (h : ∀ name a, P a → Gives (member name a) P) {fuel : Nat} {first : Bool} {a : α} (ha : P a) :
    Gives (members member fuel first a) P := by
  induction fuel generalizing first a with
  | zero => exact failHere _
  | succ fuel ih =>
    refine after fun more => ?_
    split
    · exact after fun _ => after fun name => bind (h name a ha) fun _ hb => ih hb
    · exact pure ha

/-! ### Numbers are not `null` -/

theorem signed (negative : Bool) (x : Option Binary64) : Gives (signed negative x) (· ≠ .null) := by
  cases x with
  | none => exact failHere _
  | some x => exact pure nofun

theorem real (negative : Bool) (n : Nat) (e : Int) : Gives (real negative n e) (· ≠ .null) :=
  signed negative _

theorem exponentPart (negative : Bool) (n : Nat) (e : Int) :
    Gives (exponentPart negative n e) (· ≠ .null) := by
  refine after fun _ => after fun sign => ?_
  extract_lets rest
  have hrest (below : Bool) : Gives (rest below) (· ≠ .null) := by
    refine after fun d => ?_
    split
    · exact failHere _
    · split
      · refine after fun e' => ?_
        split
        · exact real _ _ _
        · split
          · exact failHere _
          · exact after fun _ => pure nofun
      · exact failHere _
  split
  · exact after fun _ => after fun _ => hrest _
  · exact after fun _ => after fun _ => hrest _
  · exact after fun _ => hrest _

theorem afterDigits (negative : Bool) (n : Nat) (e : Int) :
    Gives (afterDigits negative n e) (· ≠ .null) := by
  refine after fun c => ?_
  split
  · exact exponentPart _ _ _
  · exact exponentPart _ _ _
  · exact real _ _ _

theorem fractionPart (negative : Bool) (n : Nat) (e : Int) :
    Gives (fractionPart negative n e) (· ≠ .null) := by
  refine after fun _ => after fun ds => ?_
  split
  · refine after fun c => ?_
    split
    · exact failAhead _
    · exact failAhead _
  · exact afterDigits _ _ _

theorem afterInteger (negative : Bool) (n dropped : Nat) :
    Gives (afterInteger negative n dropped) (· ≠ .null) := by
  refine after fun c => ?_
  split
  · exact fractionPart _ _ _
  · exact exponentPart _ _ _
  · exact exponentPart _ _ _
  · split_ifs
    · exact real _ _ _
    · exact pure nofun
    · exact real _ _ _
    · exact pure nofun

theorem number (negative : Bool) : Gives (number negative) (· ≠ .null) := by
  refine after fun c => ?_
  split
  · exact failHere _
  · refine after fun d => ?_
    split
    · split_ifs
      · exact failAhead _
      · exact afterInteger _ _ _
    · exact afterInteger _ _ _
  · split_ifs
    · exact after fun ds => afterInteger _ _ _
    · exact failHere _

end Gives

/-! ### Values that are not `null` -/

theorem peekFull_eq (c : Text.Cursor) :
    peekFull c = .ok (c.rest.dropWhile isBlank).head?
      ⟨c.index + (c.rest.takeWhile isBlank).length, c.rest.dropWhile isBlank⟩ := by
  have hdrop : c.rest.drop (c.rest.takeWhile isBlank).length = c.rest.dropWhile isBlank := by
    have h := @List.drop_left _ (c.rest.takeWhile isBlank) (c.rest.dropWhile isBlank)
    rwa [List.takeWhile_append_dropWhile] at h
  change EStateM.bind skipBlanks (fun _ => peek) c = _
  rw [EStateM.bind, skipBlanks, hdrop]
  rfl

/-- Once the blanks are behind, they stay behind. -/
theorem peekFull_of_peekFull {c c' : Text.Cursor} {x : Option Char}
    (h : peekFull c = .ok x c') : peekFull c' = .ok x c' := by
  rw [peekFull_eq] at h
  cases h
  have hhead : ∀ y ∈ (c.rest.dropWhile isBlank).head?, isBlank y = false := fun _ =>
    Text.eq_false_of_mem_head?_dropWhile
  rw [peekFull_eq]
  cases hr : c.rest.dropWhile isBlank with
  | nil => rfl
  | cons y rest =>
    rw [hr] at hhead
    simp [hhead y rfl]

/-- Only `null` begins with an `n`. -/
theorem value_ne_null {c c' : Text.Cursor} {d : Nat} {j : Json}
    (hc : ∀ c'', peekFull c ≠ .ok (some 'n') c'') (h : value d c = .ok j c') : j ≠ .null := by
  cases d with
  | zero => contradiction
  | succ d =>
    obtain ⟨x, c'', hx, h⟩ := bind_eq_ok (placed_eq_ok h)
    -- by the character that begins the value; an `n` does not
    revert h
    refine (?_ : Gives _ (· ≠ .null)) c'' j c'
    split
    · exact .failAhead _
    · exact absurd hx (hc c'')
    · exact .after fun _ => .after fun _ => .pure (by simp)
    · exact .after fun _ => .after fun _ => .pure (by simp)
    · exact .after fun _ => .number true
    · exact .after fun _ => .after fun _ => .pure (by simp)
    · split_ifs
      · exact .failAhead _
      · exact .inArray (.after fun _ => .after fun _ => .pure (by simp))
    · split_ifs
      · exact .failAhead _
      · exact .inObject (.after fun _ => .after fun _ => .pure (by simp))
    · split_ifs
      · exact .number false
      · exact .failAhead _

end Reader

end Json

end ToolRelay
