import Mathlib.Data.List.Induction
import ToolRelay.Proofs.Remote.Attribution

/-!
# Which keys have a runner

Runners are told apart by the workspace, the interpreter and the import strategy.  Only some events
concern a key: invocations for it, and shutdowns.

* `Pool.find?_invoke_of_disagrees` : an invocation leaves the runners of other keys alone;
* `Pool.isSome_find?_run_iff` : after a run, a key has a runner exactly if the last event that
  concerns it is an invocation whose channel did not fail.
-/

namespace ToolRelay

namespace Remote

namespace Key

variable {a b : Key}

theorem agrees_iff :
    a.agrees b = true ↔ a.workspace.components = b.workspace.components ∧
      a.interpreter = b.interpreter ∧ a.importStrategy = b.importStrategy := by
  simp [agrees, Path.agrees, and_assoc]

theorem agrees_comm (a b : Key) : a.agrees b = b.agrees a := by
  rw [Bool.eq_iff_iff, agrees_iff, agrees_iff]
  constructor <;> exact fun ⟨hw, hi, hs⟩ => ⟨hw.symm, hi.symm, hs.symm⟩

/-- Keys that agree agree with the same keys. -/
theorem agrees_congr (h : a.agrees b = true) (key : Key) : key.agrees a = key.agrees b := by
  obtain ⟨hw, hi, hs⟩ := agrees_iff.1 h
  rw [Bool.eq_iff_iff, agrees_iff, agrees_iff, hw, hi, hs]

end Key

namespace Pool

variable {host : Host} {p : Pool} {c : Conversation} {a b key : Key} {t : Target} {i : Invocation}
  {e : Event} {events : List (Host × Event)}

/-! ### One invocation -/

theorem find?_congr (h : a.agrees b = true) : p.find? a = p.find? b := by
  simp only [find?, Key.agrees_congr h]

theorem find?_evict_of_disagrees (h : a.agrees b = false) : (p.evict a).find? b = p.find? b := by
  have hpred (r : Key × Conversation) :
      ((!r.1.agrees a) = true ∧ r.1.agrees b = true) ↔ r.1.agrees b = true := by
    refine and_iff_right_of_imp fun hr => ?_
    rw [Key.agrees_comm] at hr
    rw [Key.agrees_comm, ← Key.agrees_congr hr, h]
    rfl
  simp only [find?, evict, List.find?_filter, hpred, Bool.decide_eq_true]

theorem find?_keep_of_disagrees (h : a.agrees b = false) :
    (p.keep a c).find? b = p.find? b := by
  have hrest := find?_evict_of_disagrees (p := p) h
  simpa [find?, keep, h] using hrest

/-- An invocation leaves the runners of other keys alone, however it ends. -/
theorem find?_invoke_of_disagrees (h : t.key.agrees key = false) :
    (p.invoke host t i).2.find? key = p.find? key := by
  obtain ⟨e, -, -, he⟩ | ⟨c, c', -, ⟨e, -, he⟩ | ⟨reply, -, he⟩ | ⟨-, he⟩⟩ :=
    p.invoke_cases host t i
  · rw [he]
  · rw [he, find?_evict_of_disagrees h]
    rfl
  · rw [he, find?_keep_of_disagrees h]
    rfl
  · rw [he, find?_keep_of_disagrees h]
    rfl

/-- After an invocation its key has a runner exactly if the channel did not fail; while the program
waits for the runner it is there. -/
theorem isSome_find?_invoke_iff (h : t.key.agrees key = true) :
    ((p.invoke host t i).2.find? key).isSome = true ↔ ¬IsTransport (p.invoke host t i).1 := by
  rw [← find?_congr h]
  obtain ⟨e, hf, -, he⟩ | ⟨c, c', -, ⟨e, -, he⟩ | ⟨reply, -, he⟩ | ⟨-, he⟩⟩ :=
    p.invoke_cases host t i
  · rw [he]
    simp [hf, isTransport_failed]
  · rw [he]
    simp [find?_evict, isTransport_failed]
  · rw [he]
    simp [find?_keep, not_isTransport_resultOf]
  · rw [he]
    simp [find?_keep, not_isTransport_pending]

/-! ### Runs -/

/-- Whether an event is about the runner of a key. -/
def Event.concerns (key : Key) : Event → Bool
  | .invoke t _ => t.key.agrees key
  | .shutdown => true
  | .pause _ => false

/-- The last event of the run that concerns the key is an invocation whose channel did not fail. -/
def LastServed (p : Pool) (events : List (Host × Event)) (key : Key) : Prop :=
  ∃ past host t i later, events = past ++ (host, .invoke t i) :: later ∧
    t.key.agrees key = true ∧ ¬IsTransport ((p.run past).invoke host t i).1 ∧
    ∀ e ∈ later, e.2.concerns key = false

theorem not_lastServed_nil : ¬p.LastServed [] key := by
  rintro ⟨past, host, t, i, later, h, -⟩
  simp at h

/-- The last event decides if it concerns the key, else the events before it. -/
theorem lastServed_concat_iff :
    p.LastServed (events ++ [(host, e)]) key ↔
      (∃ t i, e = .invoke t i ∧ t.key.agrees key = true ∧
        ¬IsTransport ((p.run events).invoke host t i).1) ∨
      e.concerns key = false ∧ p.LastServed events key := by
  constructor
  · rintro ⟨past, host', t, i, later, h, ha, ht, hlater⟩
    -- the invocation is the last event of the run, or it is one of those before
    obtain rfl | ⟨later, last, rfl⟩ := later.eq_nil_or_concat'
    · obtain ⟨rfl, hlast⟩ := List.append_inj' h rfl
      cases hlast
      exact .inl ⟨t, i, rfl, ha, ht⟩
    · rw [← List.cons_append, ← List.append_assoc] at h
      obtain ⟨rfl, hlast⟩ := List.append_inj' h rfl
      cases hlast
      rw [List.forall_mem_append, List.forall_mem_singleton] at hlater
      exact .inr ⟨hlater.2, past, host', t, i, later, rfl, ha, ht, hlater.1⟩
  · rintro (⟨t, i, rfl, ha, ht⟩ | ⟨he, past, host', t, i, later, rfl, ha, ht, hlater⟩)
    · exact ⟨events, host, t, i, [], rfl, ha, ht, nofun⟩
    · refine ⟨past, host', t, i, later ++ [(host, e)], by simp, ha, ht, ?_⟩
      rw [List.forall_mem_append, List.forall_mem_singleton]
      exact ⟨hlater, he⟩

theorem isSome_find?_after (h : e.concerns key = false) :
    ((p.after host e).find? key).isSome = (p.find? key).isSome := by
  cases e with
  | invoke t i => rw [after, find?_invoke_of_disagrees h]
  | shutdown => contradiction
  | pause elapsed =>
    rw [after, wait, find?, find?, List.find?_map]
    simp only [Option.isSome_map]
    rfl

/-- **Which keys have a runner.**  A key that had none before the run has one after it exactly if
the last event that concerns it is an invocation whose channel did not fail. -/
theorem isSome_find?_run_iff (h : p.find? key = none) :
    ((p.run events).find? key).isSome = true ↔ p.LastServed events key := by
  induction events using List.reverseRecOn with
  | nil => simp [run, h, not_lastServed_nil]
  | append_singleton events last ih =>
    obtain ⟨host, e⟩ := last
    rw [run_concat, lastServed_concat_iff]
    by_cases hc : e.concerns key = true
    · cases e with
      | invoke t i =>
        have ha : t.key.agrees key = true := hc
        rw [after, isSome_find?_invoke_iff ha]
        simp [Event.concerns, ha]
      | shutdown => simp [after, shutdown, find?, Event.concerns]
      | pause elapsed => contradiction
    · rw [Bool.not_eq_true] at hc
      rw [isSome_find?_after hc, ih]
      -- an invocation for the key would concern it
      have hnot : ¬∃ t i, e = .invoke t i ∧ t.key.agrees key = true ∧
          ¬IsTransport ((p.run events).invoke host t i).1 := by
        rintro ⟨t, i, rfl, ha, -⟩
        rw [Event.concerns, ha] at hc
        contradiction
      simp [hc, hnot]

end Pool

end Remote

end ToolRelay
