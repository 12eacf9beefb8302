import ToolRelay.Proofs.Invocation.Deed
import ToolRelay.Proofs.Remote.Departure
import ToolRelay.Proofs.Remote.Presence

/-!
# What becomes of the processes of runners

A `Fleet` does what its pool does (`Fleet.pool_invoke`, `Fleet.pool_run`), and its books show what
happens to the processes.  `Fleet.Accounted` says that the books are in order.

* `Fleet.attempts_invoke` : an invocation tries to start a process only if its key has no runner,
  and then once;
* `Fleet.discards_invoke` : an invocation stops the runner that it was for, if its channel failed,
  and no other;
* `Fleet.Accounted.run` : the books are in order after every run;
* `Fleet.isSome_of_ends` : every process that has been stopped has come to its end, if every
  shutdown has;
* `Fleet.runners_accounted` : the laws of the pool in one theorem.
-/

namespace ToolRelay

namespace Remote

namespace Fleet

variable {host : Host} {f : Fleet} {m : Member} {c : Conversation} {a b key : Key} {t : Target}
  {i : Invocation} {e : TransportError} {events : List (Host × Pool.Event)}

/-! ### All that an invocation can do -/

theorem find?_congr (h : a.agrees b = true) : f.find? a = f.find? b := by
  simp only [find?, Key.agrees_congr h]

theorem others_congr (h : a.agrees b = true) : f.others a = f.others b := by
  simp only [others, Key.agrees_congr h]

theorem find?_enlist (f : Fleet) (key : Key) (c : Conversation) :
    (f.enlist key c).find? key = some (f.recruit key c) := by
  simp [find?, enlist, recruit, Pool.agrees_self]

/-- The runner of a key is there, or is started, or cannot be started. -/
theorem memberFor_cases (host : Host) (f : Fleet) (key : Key) :
    (∃ e, f.find? key = none ∧ f.pool.spawn host key = .error e ∧
      f.memberFor host key = (.error e, f.missed key e)) ∨
    ∃ m g, g.find? key = some m ∧ f.memberFor host key = (.ok m, g) ∧
      (g = f ∨ ∃ c, f.find? key = none ∧ g = f.enlist key c) := by
  cases hf : f.find? key with
  | some m => exact .inr ⟨m, f, hf, by rw [memberFor, hf], .inl rfl⟩
  | none =>
    cases hs : f.pool.spawn host key with
    | error e =>
      refine .inl ⟨e, rfl, rfl, ?_⟩
      rw [memberFor, hf]
      simp only [hs]
    | ok c =>
      refine .inr ⟨f.recruit key c, f.enlist key c, find?_enlist f key c, ?_,
        .inr ⟨c, rfl, rfl⟩⟩
      rw [memberFor, hf]
      simp only [hs]

/-- **All that an invocation can do.**  No runner can be started; or there is one, and the request
fails, and it is killed; or the request succeeds, and it is kept; or the program waits for it for
ever. -/
theorem invoke_cases (host : Host) (f : Fleet) (t : Target) (i : Invocation) :
    (∃ e, f.memberFor host t.key = (.error e, f.missed t.key e) ∧
      f.invoke host t i = (.failed ⟨.transport, e.message, none⟩, f.missed t.key e)) ∨
    ∃ m g c, g.find? t.key = some m ∧ f.memberFor host t.key = (.ok m, g) ∧
      ((∃ e, Pool.call m.conversation g.timeoutMs g.nextId.toNat t i = (.error (.error e), c) ∧
          f.invoke host t i = (.failed ⟨.transport, e.message, none⟩,
            g.asked.evict { m with conversation := c })) ∨
        (∃ reply, Pool.call m.conversation g.timeoutMs g.nextId.toNat t i = (.ok reply, c) ∧
          f.invoke host t i = (Pool.resultOf reply, g.asked.keep t.key m c)) ∨
        Pool.call m.conversation g.timeoutMs g.nextId.toNat t i = (.error .halt, c) ∧
          f.invoke host t i = (.pending, g.asked.keep t.key m c)) := by
  obtain ⟨e, -, -, hm⟩ | ⟨m, g, hg, hm, -⟩ := f.memberFor_cases host t.key
  · exact .inl ⟨e, hm, by rw [invoke, hm]⟩
  · rw [invoke, hm]
    dsimp only
    rcases hc : Pool.call m.conversation g.timeoutMs g.nextId.toNat t i with ⟨(e | -) | reply, c⟩
    · exact .inr ⟨m, g, c, hg, rfl, .inl ⟨e, hc, rfl⟩⟩
    · exact .inr ⟨m, g, c, hg, rfl, .inr (.inr ⟨hc, rfl⟩)⟩
    · exact .inr ⟨m, g, c, hg, rfl, .inr (.inl ⟨reply, hc, rfl⟩)⟩

/-- A runner that belongs to the fleet is the current one of its key. -/
theorem evict_of_find? (h : f.find? key = some m) (c : Conversation) :
    f.evict { m with conversation := c } = { f with
      members := f.others key
      stopped := f.stopped ++ [(m.number, some c.kill)] } := by
  have ha : m.key.agrees key = true := by simpa using List.find?_some h
  have hcurrent : ((f.find? m.key).any (·.number == m.number)) = true := by
    rw [find?_congr ha, h]
    simp
  rw [evict]
  dsimp only
  rw [hcurrent, others_congr ha]
  rfl

/-! ### A fleet does what its pool does -/

theorem find?_pool (f : Fleet) (key : Key) :
    f.pool.find? key = (f.find? key).map (·.conversation) := by
  simp only [Pool.find?, pool, find?, List.find?_map, Option.map_map]
  rfl

theorem evict_pool (f : Fleet) (key : Key) :
    f.pool.evict key = { f with members := f.others key }.pool := by
  simp only [Pool.evict, pool, others, List.filter_map]
  rfl

theorem pool_keep (f : Fleet) (key : Key) (m : Member) (c : Conversation) :
    (f.keep key m c).pool = f.pool.keep key c := by
  rw [Pool.keep, evict_pool]
  rfl

theorem pool_evict (h : f.find? key = some m) (c : Conversation) :
    (f.evict { m with conversation := c }).pool = f.pool.evict key := by
  rw [evict_of_find? h, evict_pool]
  rfl

/-- A new runner makes no difference to other keys. -/
theorem evict_pool_enlist (f : Fleet) (key : Key) (c : Conversation) :
    (f.enlist key c).pool.evict key = f.pool.evict key := by
  have ho : (f.enlist key c).others key = f.others key := by
    simp [others, enlist, recruit, Pool.agrees_self]
  rw [evict_pool, evict_pool, ho]
  rfl

theorem runnerFor_pool (host : Host) (f : Fleet) (key : Key) :
    f.pool.runnerFor host key = (f.memberFor host key).1.map (·.conversation) := by
  rw [memberFor]
  cases hf : f.find? key with
  | some m => exact Pool.runnerFor_of_find? (by rw [find?_pool, hf]; rfl)
  | none =>
    rw [Pool.runnerFor_of_none (by rw [find?_pool, hf]; rfl)]
    dsimp only
    cases f.pool.spawn host key <;> rfl

theorem evict_pool_memberFor (host : Host) (f : Fleet) (key : Key) :
    (f.memberFor host key).2.pool.evict key = f.pool.evict key := by
  rw [memberFor]
  cases f.find? key with
  | some m => rfl
  | none =>
    cases f.pool.spawn host key with
    | error e => rfl
    | ok c => exact evict_pool_enlist f key c

/-- **A fleet does what its pool does**: the result is the same, and so is the pool afterwards. -/
theorem pool_invoke (host : Host) (f : Fleet) (t : Target) (i : Invocation) :
    ((f.invoke host t i).1, (f.invoke host t i).2.pool) = f.pool.invoke host t i := by
  have hr := runnerFor_pool host f t.key
  have hsame := evict_pool_memberFor host f t.key
  obtain ⟨e, hm, he⟩ | ⟨m, g, c, hg, hm, hend⟩ := f.invoke_cases host t i
  · rw [hm] at hr
    rw [he, Pool.invoke_eq, hr]
    rfl
  · rw [hm] at hr hsame
    -- apart from the runner of this key, the pool is still the same
    have hn : g.nextId = f.pool.nextId := congrArg Pool.nextId hsame
    have ht : g.timeoutMs = f.pool.timeoutMs := congrArg Pool.timeoutMs hsame
    have hasked : g.asked.pool.evict t.key = f.pool.asked.evict t.key :=
      congrArg Pool.asked hsame
    have hkeep : g.asked.pool.keep t.key c = f.pool.asked.keep t.key c := by
      rw [Pool.keep, hasked, ← Pool.keep]
    have hfind : g.asked.find? t.key = some m := hg
    rw [hn, ht] at hend
    rw [Pool.invoke_eq, hr, Except.map, Pool.complete]
    obtain ⟨e, hc, he⟩ | ⟨reply, hc, he⟩ | ⟨hc, he⟩ := hend
    · rw [he, hc, pool_evict hfind, hasked]
    · rw [he, hc, pool_keep, hkeep]
    · rw [he, hc, pool_keep, hkeep]

/-! ### Runs -/

/-- The fleet after time has passed. -/
def wait (f : Fleet) (elapsed : Key → Nat) : Fleet :=
  { f with
    members := f.members.map fun m =>
      ⟨m.number, m.key, { m.conversation with now := m.conversation.now + elapsed m.key }⟩ }

/-- The fleet after an event. -/
def after (host : Host) (f : Fleet) : Pool.Event → Fleet
  | .invoke t i => (f.invoke host t i).2
  | .shutdown => f.shutdown
  | .pause elapsed => f.wait elapsed

/-- The fleet after events, one after another. -/
def run (f : Fleet) : List (Host × Pool.Event) → Fleet
  | [] => f
  | (host, e) :: rest => (f.after host e).run rest

theorem pool_after (host : Host) (f : Fleet) (e : Pool.Event) :
    (f.after host e).pool = f.pool.after host e := by
  cases e with
  | invoke t i => exact congrArg Prod.snd (pool_invoke host f t i)
  | shutdown => rfl
  | pause elapsed => simp only [after, wait, pool, Pool.after, Pool.wait, List.map_map]; rfl

theorem pool_run (f : Fleet) (events : List (Host × Pool.Event)) :
    (f.run events).pool = f.pool.run events := by
  induction events generalizing f with
  | nil => rfl
  | cons first rest ih =>
    obtain ⟨host, e⟩ := first
    rw [run, Pool.run, ih, pool_after]

/-! ### Attempts -/

/-- **An invocation tries to start a process only if its key has no runner**, and then once. -/
theorem attempts_invoke (host : Host) (f : Fleet) (t : Target) (i : Invocation) :
    (f.invoke host t i).2.attempts = f.attempts ++
      if (f.find? t.key).isSome then [] else [(t.key, f.pool.spawn host t.key)] := by
  have hmember : (f.memberFor host t.key).2.attempts = f.attempts ++
      if (f.find? t.key).isSome then [] else [(t.key, f.pool.spawn host t.key)] := by
    rw [memberFor]
    cases hf : f.find? t.key with
    | some m => simp
    | none =>
      simp only
      cases hs : f.pool.spawn host t.key <;> rfl
  rw [← hmember]
  -- neither killing a runner nor keeping it is an attempt
  obtain ⟨e, hm, he⟩ | ⟨m, g, c, -, hm, ⟨e, -, he⟩ | ⟨reply, -, he⟩ | ⟨-, he⟩⟩ :=
    f.invoke_cases host t i <;> rw [he, hm] <;> rfl

/-- The numbers of the attempts that have started a process. -/
def startedBy (attempts : List (Key × Except TransportError Conversation)) : List Nat :=
  (List.range attempts.length).filter fun n => attempts[n]?.any (·.2.isOk)

theorem startedBy_concat (attempts : List (Key × Except TransportError Conversation)) (key : Key)
    (outcome : Except TransportError Conversation) :
    startedBy (attempts ++ [(key, outcome)]) =
      startedBy attempts ++ if outcome.isOk then [attempts.length] else [] := by
  have hold : ∀ n ∈ List.range attempts.length,
      (attempts ++ [(key, outcome)])[n]?.any (·.2.isOk) = attempts[n]?.any (·.2.isOk) := by
    intro n hn
    rw [List.getElem?_append_left (List.mem_range.1 hn)]
  rw [startedBy, List.length_append, List.length_singleton, List.range_succ, List.filter_append,
    List.filter_congr hold, startedBy]
  simp [List.filter_singleton]

/-- The attempt with the number `n` was made for the key, and has started the process. -/
def Started (attempts : List (Key × Except TransportError Conversation)) (n : Nat) (key : Key)
    (process : Process) : Prop :=
  ∃ own c, attempts[n]? = some (own, .ok c) ∧ own.agrees key = true ∧ c.process = process

/-- An attempt keeps its number when there are more. -/
theorem Started.concat {attempts : List (Key × Except TransportError Conversation)} {n : Nat}
    {process : Process} (h : Started attempts n key process)
    (attempt : Key × Except TransportError Conversation) :
    Started (attempts ++ [attempt]) n key process := by
  obtain ⟨own, c, hn, hk⟩ := h
  obtain ⟨hlt, -⟩ := List.getElem?_eq_some_iff.1 hn
  exact ⟨own, c, by rw [List.getElem?_append_left hlt, hn], hk⟩

theorem Started.congr {attempts : List (Key × Except TransportError Conversation)} {n : Nat}
    {process : Process} (h : Started attempts n a process) (ha : a.agrees b = true) :
    Started attempts n b process := by
  obtain ⟨own, c, hn, hk, hp⟩ := h
  exact ⟨own, c, hn, Key.agrees_congr ha own ▸ hk, hp⟩

/-! ### What an invocation stops -/

/-- What an invocation with the result `r` adds to the processes that have been stopped. -/
inductive Discards (host : Host) (p : Pool) (t : Target) (i : Invocation) (r : InvocationResult) :
    List (Nat × Option Departure) → Prop where
  /-- Its channel did not fail, or there was no runner. -/
  | nothing (h : Pool.IsTransport r → ∀ c, p.runnerFor host t.key ≠ .ok c) :
      Discards host p t i r []
  /-- Its channel failed, and the runner is killed right after that. -/
  | runner {c : Conversation} {n : Nat} {d : Departure} (h : Pool.IsTransport r)
      (hr : p.runnerFor host t.key = .ok c)
      (hd : (Pool.call c p.timeoutMs p.nextId.toNat t i).2.Killed d) :
      Discards host p t i r [(n, some d)]

theorem stopped_memberFor (host : Host) (f : Fleet) (key : Key) :
    (f.memberFor host key).2.stopped = f.stopped := by
  obtain ⟨e, -, -, hm⟩ | ⟨m, g, -, hm, rfl | ⟨c, -, rfl⟩⟩ := f.memberFor_cases host key <;>
    rw [hm] <;> rfl

/-- **An invocation stops the runner that it was for, if its channel failed**, and no other. -/
theorem discards_invoke (host : Host) (f : Fleet) (t : Target) (i : Invocation) :
    ∃ gone, (f.invoke host t i).2.stopped = f.stopped ++ gone ∧
      Discards host f.pool t i (f.invoke host t i).1 gone := by
  have hr := runnerFor_pool host f t.key
  have hstopped := stopped_memberFor host f t.key
  have hsame := evict_pool_memberFor host f t.key
  obtain ⟨e, hm, he⟩ | ⟨m, g, c, hg, hm, hend⟩ := f.invoke_cases host t i
  · refine ⟨[], by rw [he, List.append_nil]; rfl, .nothing fun _ c hc => ?_⟩
    rw [hr, hm] at hc
    contradiction
  · rw [hm] at hr hstopped hsame
    have hn : g.nextId = f.pool.nextId := congrArg Pool.nextId hsame
    have ht : g.timeoutMs = f.pool.timeoutMs := congrArg Pool.timeoutMs hsame
    rw [hn, ht] at hend
    obtain ⟨e, hc, he⟩ | ⟨reply, -, he⟩ | ⟨-, he⟩ := hend
    · have hfind : g.asked.find? t.key = some m := hg
      refine ⟨[(m.number, some c.kill)], ?_, ?_⟩
      · rw [he, evict_of_find? hfind, ← hstopped]
        rfl
      · rw [he]
        refine .runner (Pool.isTransport_failed _) hr ?_
        rw [hc]
        exact c.killed_kill
    · refine ⟨[], ?_, .nothing fun h => absurd h ?_⟩
      · rw [he, List.append_nil]
        exact hstopped
      · rw [he]
        exact Pool.not_isTransport_resultOf reply
    · refine ⟨[], ?_, .nothing fun h => absurd h ?_⟩
      · rw [he, List.append_nil]
        exact hstopped
      · rw [he]
        exact Pool.not_isTransport_pending

/-! ### Books in order -/

/-- The books of the fleet are in order. -/
structure Accounted (f : Fleet) : Prop where
  /-- No two runners stand for the same key. -/
  distinct : f.members.Pairwise fun a b => a.key.agrees b.key = false
  /-- The process of a runner was started by the attempt with its number, for its key. -/
  attempted : ∀ m ∈ f.members, Started f.attempts m.number m.key m.conversation.process
  /-- A process that was started either runs for the fleet or has been stopped, and once. -/
  settled : (f.members.map (·.number) ++ f.stopped.map (·.1)).Perm (startedBy f.attempts)
  /-- A process that has been stopped is the one with its number, and it is over, unless the program
  waits for ever for it to take the line that asks it to exit. -/
  departed : ∀ s ∈ f.stopped, ∀ d ∈ s.2,
    (∃ key, Started f.attempts s.1 key d.process) ∧ ∃ last, d.Over last

theorem accounted_new (runnerArgs : List String) (timeoutMs : Nat) :
    (new runnerArgs timeoutMs).Accounted :=
  ⟨.nil, nofun, .nil, nofun⟩

/-- Where no two runners stand for one key, there are the runner of a key and the others. -/
theorem perm_filter {members : List Member}
    (hd : members.Pairwise fun a b => a.key.agrees b.key = false)
    (hf : members.find? (·.key.agrees key) = some m) :
    members.Perm (m :: members.filter (!·.key.agrees key)) := by
  induction members with
  | nil => contradiction
  | cons first rest ih =>
    obtain ⟨hfirst, hrest⟩ := List.pairwise_cons.1 hd
    by_cases ha : first.key.agrees key = true
    · simp only [List.find?_cons, ha] at hf
      cases hf
      -- the runners after it stand for other keys
      have hother : ∀ b ∈ rest, (!b.key.agrees key) = true := by
        intro b hb
        have hb := hfirst b hb
        rw [Key.agrees_comm, Key.agrees_congr ha] at hb
        rw [hb]
        rfl
      rw [List.filter_cons_of_neg (by simpa using ha), List.filter_eq_self.2 hother]
    · simp only [List.find?_cons, ha] at hf
      rw [List.filter_cons_of_pos (by simpa using ha)]
      exact ((ih hrest hf).cons first).trans (.swap ..)

namespace Accounted

theorem perm_others (h : f.Accounted) (hf : f.find? key = some m) :
    f.members.Perm (m :: f.others key) := perm_filter h.distinct hf

theorem pairwise_others (h : f.Accounted) (key : Key) :
    (f.others key).Pairwise fun a b => a.key.agrees b.key = false := h.distinct.filter _

/-- Nothing that has been stopped is forgotten when there are more attempts. -/
theorem departed_concat (h : f.Accounted) (attempt : Key × Except TransportError Conversation) :
    ∀ s ∈ f.stopped, ∀ d ∈ s.2,
      (∃ key, Started (f.attempts ++ [attempt]) s.1 key d.process) ∧ ∃ last, d.Over last := by
  intro s hs d hd
  obtain ⟨⟨key, hstarted⟩, hover⟩ := h.departed s hs d hd
  exact ⟨⟨key, hstarted.concat attempt⟩, hover⟩

theorem missed (h : f.Accounted) (key : Key) (e : TransportError) : (f.missed key e).Accounted where
  distinct := h.distinct
  attempted m hm := (h.attempted m hm).concat _
  settled := by
    rw [Fleet.missed, startedBy_concat]
    simpa [Except.isOk, Except.toBool] using h.settled
  departed := h.departed_concat _

/-- A process that has been started for a key that had none is accounted for. -/
theorem enlist (h : f.Accounted) (hf : f.find? key = none) (c : Conversation) :
    (f.enlist key c).Accounted where
  distinct := by
    refine .cons ?_ h.distinct
    intro m hm
    have hne := List.find?_eq_none.1 hf m hm
    rw [Key.agrees_comm]
    simpa [recruit] using hne
  attempted := by
    refine List.forall_mem_cons.2 ⟨?_, fun m hm => (h.attempted m hm).concat _⟩
    exact ⟨key, c, List.getElem?_concat_length, Pool.agrees_self key, rfl⟩
  settled := by
    rw [Fleet.enlist, startedBy_concat]
    exact (h.settled.cons f.attempts.length).trans (List.perm_append_singleton ..).symm
  departed := h.departed_concat _

/-- A runner that is killed has been stopped, and is over. -/
theorem evict (h : f.Accounted) (hf : f.find? key = some m)
    (hp : c.process = m.conversation.process) :
    (f.evict { m with conversation := c }).Accounted := by
  rw [evict_of_find? hf]
  refine ⟨h.pairwise_others key, ?_, ?_, ?_⟩
  · intro m' hm
    exact h.attempted m' (List.mem_of_mem_filter hm)
  · -- its number moves from the runners to the processes that have been stopped
    have hmembers := (h.perm_others hf).map (·.number)
    rw [List.map_append, ← List.append_assoc]
    refine List.Perm.trans ?_ h.settled
    refine (List.perm_append_singleton ..).trans ?_
    exact (hmembers.append_right _).symm
  · rw [List.forall_mem_append, List.forall_mem_singleton]
    refine ⟨h.departed, ?_⟩
    rintro d ⟨rfl⟩
    have hkill : c.kill.process = m.conversation.process := hp
    exact ⟨⟨m.key, hkill ▸ h.attempted m (List.mem_of_find?_eq_some hf)⟩, _, c.killed_kill.isOver⟩

/-- A runner that is kept is still the same process. -/
theorem keep (h : f.Accounted) (hf : f.find? key = some m)
    (hp : c.process = m.conversation.process) : (f.keep key m c).Accounted := by
  have hmembers := h.perm_others hf
  refine ⟨?_, ?_, ?_, h.departed⟩
  · refine .cons ?_ (h.pairwise_others key)
    intro b hb
    have hne := (List.mem_filter.1 hb).2
    rw [Key.agrees_comm]
    simpa using hne
  · refine List.forall_mem_cons.2 ⟨?_, ?_⟩
    · have ha : m.key.agrees key = true := by simpa using List.find?_some hf
      exact hp ▸ (h.attempted m (List.mem_of_find?_eq_some hf)).congr ha
    · intro m' hm
      exact h.attempted m' (List.mem_of_mem_filter hm)
  · exact ((hmembers.map (·.number)).append_right _).symm.trans h.settled

/-- A runner that has been asked to exit has been stopped, and is over. -/
theorem shutdown (h : f.Accounted) : f.shutdown.Accounted where
  distinct := .nil
  attempted := nofun
  settled := by
    rw [Fleet.shutdown, List.map_nil, List.nil_append, List.map_append, List.map_map]
    exact List.perm_append_comm.trans h.settled
  departed := by
    rw [Fleet.shutdown]
    refine List.forall_mem_append.2 ⟨h.departed, List.forall_mem_map.2 fun m hm d hd => ?_⟩
    obtain ⟨hp, closed, -, -, -, hover⟩ := Conversation.dismissed_of_terminate? hd
    exact ⟨⟨m.key, hp ▸ h.attempted m hm⟩, _, hover⟩

theorem wait (h : f.Accounted) (elapsed : Key → Nat) : (f.wait elapsed).Accounted where
  distinct := List.pairwise_map.2 h.distinct
  attempted := List.forall_mem_map.2 h.attempted
  settled := by
    rw [Fleet.wait, List.map_map]
    exact h.settled
  departed := h.departed

theorem memberFor (h : f.Accounted) (host : Host) (key : Key) :
    (f.memberFor host key).2.Accounted := by
  obtain ⟨e, -, -, hm⟩ | ⟨m, g, -, hm, hfrom⟩ := f.memberFor_cases host key
  · rw [hm]
    exact h.missed key e
  · rw [hm]
    obtain rfl | ⟨c, hf, rfl⟩ := hfrom
    · exact h
    · exact h.enlist hf c

/-- **An invocation keeps the books in order**, however it ends. -/
theorem invoke (h : f.Accounted) (host : Host) (t : Target) (i : Invocation) :
    (f.invoke host t i).2.Accounted := by
  obtain ⟨e, -, he⟩ | ⟨m, g, c, hf, hm, hend⟩ := f.invoke_cases host t i
  · rw [he]
    exact h.missed t.key e
  · have hg := h.memberFor host t.key
    rw [hm] at hg
    -- the identity of the next request is no matter of the books
    have hasked : g.asked.Accounted := ⟨hg.distinct, hg.attempted, hg.settled, hg.departed⟩
    have hp : c.process = m.conversation.process := by
      rw [← Pool.process_call m.conversation g.timeoutMs g.nextId.toNat t i]
      obtain ⟨e, hc, -⟩ | ⟨reply, hc, -⟩ | ⟨hc, -⟩ := hend <;> rw [hc]
    obtain ⟨e, -, he⟩ | ⟨reply, -, he⟩ | ⟨-, he⟩ := hend
    · rw [he]
      exact hasked.evict hf hp
    · rw [he]
      exact hasked.keep hf hp
    · rw [he]
      exact hasked.keep hf hp

theorem after (h : f.Accounted) (host : Host) (e : Pool.Event) : (f.after host e).Accounted := by
  cases e with
  | invoke t i => exact h.invoke host t i
  | shutdown => exact h.shutdown
  | pause elapsed => exact h.wait elapsed

/-- **The books are in order after every run.** -/
theorem run (h : f.Accounted) (events : List (Host × Pool.Event)) : (f.run events).Accounted := by
  induction events generalizing f with
  | nil => exact h
  | cons first rest ih =>
    obtain ⟨host, e⟩ := first
    exact ih (h.after host e)

end Accounted

end Fleet

/-! ### Shutdowns -/

/-- There is an end to an event as far as shutdowns go: no runner leaves the program waiting for
ever for it to take the line that asks it to exit. -/
def Pool.EndsAt (p : Pool) : Event → Prop
  | .shutdown => ∀ r ∈ p.runners, ¬ r.2.Stalls
  | .invoke _ _ | .pause _ => True

/-- There is an end to every shutdown of a run. -/
def Pool.Ends (p : Pool) : List (Host × Event) → Prop
  | [] => True
  | (host, e) :: rest => p.EndsAt e ∧ (p.after host e).Ends rest

namespace Fleet

variable {host : Host} {f : Fleet}

/-- What becomes of a runner when all are stopped. -/
structure Stops (m : Member) (s : Nat × Option Departure) : Prop where
  /-- It keeps its number. -/
  number_eq : s.1 = m.number
  /-- It is asked to exit, and killed if it does not. -/
  dismissed : ∀ d ∈ s.2, m.conversation.Dismissed d
  /-- There is no end to that if it leaves the program waiting for ever. -/
  eq_none_iff : s.2 = none ↔ m.conversation.Stalls

/-- **A shutdown stops all runners**, and leaves none. -/
theorem stops_shutdown (f : Fleet) :
    ∃ gone, f.shutdown.stopped = f.stopped ++ gone ∧ f.shutdown.members = [] ∧
      List.Forall₂ Stops f.members gone := by
  refine ⟨_, rfl, rfl, List.forall₂_map_right_iff.2 (List.forall₂_same.2 fun m _ => ?_)⟩
  exact ⟨rfl, fun d hd => Conversation.dismissed_of_terminate? hd,
    Conversation.terminate?_eq_none_iff⟩

theorem isSome_after {e : Pool.Event} (h : ∀ s ∈ f.stopped, s.2.isSome = true)
    (he : f.pool.EndsAt e) : ∀ s ∈ (f.after host e).stopped, s.2.isSome = true := by
  cases e with
  | pause elapsed => exact h
  | invoke t i =>
    obtain ⟨gone, hgone, hd⟩ := discards_invoke host f t i
    rw [after, hgone]
    refine List.forall_mem_append.2 ⟨h, ?_⟩
    cases hd with
    | nothing => exact nofun
    | runner => exact List.forall_mem_singleton.2 rfl
  | shutdown =>
    refine List.forall_mem_append.2 ⟨h, List.forall_mem_map.2 fun m hm => ?_⟩
    have hstalls : ¬ m.conversation.Stalls := he _ (List.mem_map_of_mem hm)
    rw [Option.isSome_iff_ne_none]
    exact mt Conversation.terminate?_eq_none_iff.1 hstalls

/-- **Every process that has been stopped has come to its end**, if every shutdown has. -/
theorem isSome_of_ends {events : List (Host × Pool.Event)}
    (h : ∀ s ∈ f.stopped, s.2.isSome = true) (he : f.pool.Ends events) :
    ∀ s ∈ (f.run events).stopped, s.2.isSome = true := by
  induction events generalizing f with
  | nil => exact h
  | cons first rest ih =>
    obtain ⟨host, e⟩ := first
    refine ih (isSome_after h he.1) ?_
    rw [pool_after]
    exact he.2

/-- **The laws of the pool**, for every sequence of invocations, pauses and shutdowns, and whatever
the runners do.  No two runners stand for one key.  A key has a runner exactly if the last event
that concerns it is an invocation whose channel did not fail.  An invocation tries to start a
process only if its key has no runner, and then once, leaves other keys alone, and kills the runner
that it was for if its channel failed, and no other.  A shutdown asks every runner to exit and kills
those that do not.  Every process that was started runs for the pool or has been stopped, and those
that have been stopped are over, if every shutdown came to an end. -/
theorem runners_accounted (runnerArgs : List String) (timeoutMs : Nat)
    (events : List (Host × Pool.Event)) :
    let p := (Pool.new runnerArgs timeoutMs).run events
    let f := (new runnerArgs timeoutMs).run events
    f.pool = p ∧ f.Accounted ∧
    ((Pool.new runnerArgs timeoutMs).Ends events → ∀ s ∈ f.stopped, s.2.isSome = true) ∧
    p.runners.Pairwise (fun a b => a.1.agrees b.1 = false) ∧
    (∀ key, (p.find? key).isSome = true ↔
      (Pool.new runnerArgs timeoutMs).LastServed events key) ∧
    (∀ host t i,
      ((f.invoke host t i).1, (f.invoke host t i).2.pool) = p.invoke host t i ∧
      (p.conduct host t i).deeds = p.deeds host t.key ∧
      (f.invoke host t i).2.attempts = f.attempts ++
        (if (p.find? t.key).isSome then [] else [(t.key, p.spawn host t.key)]) ∧
      (∃ gone, (f.invoke host t i).2.stopped = f.stopped ++ gone ∧
        Discards host p t i (f.invoke host t i).1 gone) ∧
      ∀ key, t.key.agrees key = false → (p.invoke host t i).2.find? key = p.find? key) ∧
    f.shutdown.pool = p.shutdown ∧
    ∃ gone, f.shutdown.stopped = f.stopped ++ gone ∧ f.shutdown.members = [] ∧
      List.Forall₂ Stops f.members gone := by
  intro p f
  have hpool : f.pool = p := pool_run _ _
  have hf : f.Accounted := (accounted_new runnerArgs timeoutMs).run events
  have hnone : ∀ s ∈ (new runnerArgs timeoutMs).stopped, s.2.isSome = true := by
    rw [new]
    exact fun _ h => absurd h List.not_mem_nil
  refine ⟨hpool, hf, isSome_of_ends hnone, ?_, fun key => Pool.isSome_find?_run_iff rfl, ?_, ?_,
    stops_shutdown f⟩
  · rw [← hpool]
    exact List.pairwise_map.2 hf.distinct
  · intro host t i
    refine ⟨hpool ▸ pool_invoke host f t i, Traced.deeds_eq (p.events_conduct host t i), ?_,
      hpool ▸ discards_invoke host f t i, fun key => Pool.find?_invoke_of_disagrees⟩
    rw [attempts_invoke, ← hpool, find?_pool, Option.isSome_map]
  · rw [← hpool]
    rfl

/-- Two invocations of the runner that answers every request as if it were the first, and a shutdown
between them. -/
def stutteringEvents : List (Host × Pool.Event) :=
  [(Pool.stutteringHost, .invoke Pool.someTarget Pool.someInvocation),
    (Pool.stutteringHost, .shutdown),
    (Pool.stutteringHost, .invoke Pool.someTarget Pool.someInvocation)]

theorem ends_stutteringEvents : (Pool.new ["runner"] 1000).Ends stutteringEvents := by
  have hrunners : ((Pool.new ["runner"] 1000).after Pool.stutteringHost
      (.invoke Pool.someTarget Pool.someInvocation)).runners.all
        (fun r => (r.2.tell Conversation.exitText).course.delivery != .stuck) = true := by
    decide +kernel
  refine ⟨trivial, fun r hr => ?_, trivial, trivial⟩
  simpa [Conversation.Stalls] using List.all_eq_true.1 hrunners r hr

/-- The first process does not exit when it is asked to and is killed when the grace is over; the
second one gives a wrong answer and is killed at once. -/
theorem runners_accounted_stuttering :
    let f := (new ["runner"] 1000).run stutteringEvents
    (∀ s ∈ f.stopped, s.2.isSome = true) ∧
      (f.members.map (·.number) ++ f.stopped.map (·.1)).Perm [0, 1] ∧
      f.stopped.map (fun s => s.2.bind Departure.exit?) =
        [some (500, .signal), some (0, .signal)] := by
  intro f
  obtain ⟨-, hf, hsome, -⟩ := runners_accounted ["runner"] 1000 stutteringEvents
  have hbooks : startedBy f.attempts = [0, 1] ∧ f.stopped.map (fun s => s.2.bind Departure.exit?) =
      [some (500, .signal), some (0, .signal)] := by
    decide +kernel
  exact ⟨hsome ends_stutteringEvents, hbooks.1 ▸ hf.settled, hbooks.2⟩

end Fleet

end Remote

end ToolRelay
