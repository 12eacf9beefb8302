import ToolRelay.Proofs.Remote.Exchange

/-!
# Replies belong to their requests

A pool lives through events (`Pool.run`): invocations, pauses of any length, shutdowns.  Each finds
the outside world in a state of its own, and a runner may write whatever it likes at any moment.

* `Pool.requestIds_getElem?` : identities are counted up, with 64 bits;
* `Pool.pairwise_requestIds` and `Pool.nodup_requestIds` : so later requests have greater ones, and
  no identity is used twice, as far as 64 bits reach;
* `Pool.replies_attributed` : an invocation has the result that a line stands for only if this line
  is a reply to its own request; otherwise the channel has failed and the runner is given up.
-/

namespace ToolRelay

namespace Remote

namespace Pool

/-! ### Events -/

/-- Something that happens to a pool. -/
inductive Event where
  /-- A module is run in a runner. -/
  | invoke (t : Target) (i : Invocation)
  /-- All runners are stopped. -/
  | shutdown
  /-- Time passes, on the clock of each runner. -/
  | pause (elapsed : Key → Nat)

/-- The pool after time has passed. -/
def wait (p : Pool) (elapsed : Key → Nat) : Pool :=
  { p with runners := p.runners.map fun (key, c) => (key, { c with now := c.now + elapsed key }) }

/-- The pool after an event. -/
def after (host : Host) (p : Pool) : Event → Pool
  | .invoke t i => (p.invoke host t i).2
  | .shutdown => p.shutdown
  | .pause elapsed => p.wait elapsed

/-- The pool after events, one after another. -/
def run (p : Pool) : List (Host × Event) → Pool
  | [] => p
  | (host, e) :: rest => (p.after host e).run rest

theorem run_append (p : Pool) (past later : List (Host × Event)) :
    p.run (past ++ later) = (p.run past).run later := by
  induction past generalizing p with
  | nil => rfl
  | cons first rest ih => exact ih _

theorem run_concat (p : Pool) (past : List (Host × Event)) (host : Host) (e : Event) :
    p.run (past ++ [(host, e)]) = (p.run past).after host e :=
  run_append p past _

/-! ### Identities of requests -/

/-- The identity of the request that an event makes; without a runner no request is made. -/
def requestId? (host : Host) (p : Pool) : Event → Option UInt64
  | .invoke t _ =>
    match p.runnerFor host t.key with
    | .ok _ => some p.nextId
    | .error _ => none
  | .shutdown | .pause _ => none

/-- The identities of all requests that are made in a run. -/
def requestIds (p : Pool) : List (Host × Event) → List UInt64
  | [] => []
  | (host, e) :: rest => (p.requestId? host e).toList ++ (p.after host e).requestIds rest

variable {host : Host} {p : Pool} {e : Event} {events : List (Host × Event)} {n : UInt64}

/-- A request takes the next identity, and the one after it is the next then. -/
theorem nextId_after_of_some (h : p.requestId? host e = some n) :
    n = p.nextId ∧ (p.after host e).nextId = p.nextId + 1 := by
  cases e with
  | shutdown => contradiction
  | pause elapsed => contradiction
  | invoke t i =>
    rw [requestId?] at h
    rw [after]
    obtain ⟨e, hf, hs, he⟩ | ⟨c, c', hr, ⟨e, -, he⟩ | ⟨reply, -, he⟩ | ⟨-, he⟩⟩ :=
      p.invoke_cases host t i
    · rw [runnerFor_of_none hf, hs] at h
      contradiction
    all_goals
      rw [hr] at h
      obtain rfl := Option.some.inj h
      rw [he]
      exact ⟨rfl, rfl⟩

theorem nextId_after_of_none (h : p.requestId? host e = none) :
    (p.after host e).nextId = p.nextId := by
  cases e with
  | shutdown => rfl
  | pause elapsed => rfl
  | invoke t i =>
    rw [requestId?] at h
    rw [after]
    obtain ⟨e, -, -, he⟩ | ⟨c, c', hr, -⟩ := p.invoke_cases host t i
    · rw [he]
    · rw [hr] at h
      contradiction

/-- **Identities are counted up**: there are so many requests between two of them as their distance
tells. -/
theorem requestIds_getElem? {k : Nat} (h : (p.requestIds events)[k]? = some n) :
    n = p.nextId + .ofNat k := by
  induction events generalizing p k with
  | nil => contradiction
  | cons first rest ih =>
    obtain ⟨host, e⟩ := first
    rw [requestIds] at h
    cases hid : p.requestId? host e with
    | none =>
      rw [hid] at h
      rw [← nextId_after_of_none hid]
      exact ih h
    | some m =>
      obtain ⟨rfl, hnext⟩ := nextId_after_of_some hid
      rw [hid] at h
      cases k with
      | zero =>
        obtain rfl := Option.some.inj h
        simp
      | succ k =>
        have hrest := ih h
        rw [hnext] at hrest
        rw [hrest, Nat.add_comm, UInt64.ofNat_add, ← UInt64.add_assoc]
        rfl

/-- What 64 bits make of counting up. -/
theorem toNat_add_ofNat (id : UInt64) (k : Nat) :
    (id + .ofNat k).toNat = (id.toNat + k) % UInt64.size := by
  rw [UInt64.toNat_add, UInt64.toNat_ofNat', Nat.add_mod_mod]

/-- **Later requests have greater identities** until the greatest one has been used. -/
theorem pairwise_requestIds (h : p.nextId.toNat + (p.requestIds events).length ≤ UInt64.size) :
    (p.requestIds events).Pairwise (· < ·) := by
  rw [List.pairwise_iff_getElem]
  intro k l hk hl hlt
  rw [requestIds_getElem? (List.getElem?_eq_getElem hk),
    requestIds_getElem? (List.getElem?_eq_getElem hl), UInt64.lt_iff_toNat_lt, toNat_add_ofNat,
    toNat_add_ofNat]
  rw [UInt64.size] at h ⊢
  omega

/-- **No identity is used twice** until all of them have been used. -/
theorem nodup_requestIds (h : (p.requestIds events).length ≤ UInt64.size) :
    (p.requestIds events).Nodup := by
  rw [List.Nodup, List.pairwise_iff_getElem]
  intro k l hk hl hlt
  rw [requestIds_getElem? (List.getElem?_eq_getElem hk),
    requestIds_getElem? (List.getElem?_eq_getElem hl), Ne, ← UInt64.toNat_inj, toNat_add_ofNat,
    toNat_add_ofNat]
  rw [UInt64.size] at h ⊢
  omega

theorem requestIds_append (p : Pool) (past later : List (Host × Event)) :
    p.requestIds (past ++ later) = p.requestIds past ++ (p.run past).requestIds later := by
  induction past generalizing p with
  | nil => rfl
  | cons first rest ih =>
    rw [List.cons_append, requestIds, requestIds, ih, run, List.append_assoc]

/-! ### Attribution -/

/-- **Replies belong to their requests**, in a run of any length and whatever the runners write, and
whenever.  Identities are counted up from request to request with 64 bits: they grow until the
greatest one has been used, none is used again before all of them have been, and a line is the reply
to one request only.  An invocation has an end, and one otherwise than with a failure of the
channel, exactly if it is answered: there is a runner, the request can be written down and sent, and
the first line with something in it that comes from the runner comes in time and is a reply to the
request with the identity that this invocation has in the run.  Then the result is that of the
reply; if not, the runner is given up, unless the program waits for ever. -/
theorem replies_attributed (p : Pool) (events : List (Host × Event)) :
    let ids := p.requestIds events
    (∀ k n, ids[k]? = some n → n = p.nextId + .ofNat k) ∧
    (p.nextId.toNat + ids.length ≤ UInt64.size → ids.Pairwise (· < ·)) ∧
    (ids.length ≤ UInt64.size → ids.Nodup) ∧
    (∀ id id' text reply reply', IsReply id text reply → IsReply id' text reply' →
      id = id' ∧ reply = reply') ∧
    ∀ past host t i later, events = past ++ (host, .invoke t i) :: later →
      let q := p.run past
      (¬Waits host q t i ∧ ¬IsTransport (q.invoke host t i).1 ↔
        ∃ reply, Answered host q t i reply) ∧
      (∀ reply, Answered host q t i reply → (q.invoke host t i).1 = resultOf reply ∧
        ids = p.requestIds past ++
          q.nextId :: (p.run (past ++ [(host, .invoke t i)])).requestIds later) ∧
      (¬Waits host q t i → (¬∃ reply, Answered host q t i reply) →
        IsTransport (q.invoke host t i).1 ∧ (q.invoke host t i).2.find? t.key = none) := by
  intro ids
  refine ⟨fun _ _ => requestIds_getElem?, pairwise_requestIds, nodup_requestIds,
    fun _ _ _ _ _ => IsReply.unique, ?_⟩
  rintro past host t i later rfl q
  refine ⟨exists_answered_iff.symm, ?_, invoke_of_not_answered⟩
  intro reply h
  refine ⟨invoke_of_answered h, ?_⟩
  obtain ⟨c, -, -, -, hr, -⟩ := h
  have hid : q.requestId? host (.invoke t i) = some q.nextId := by rw [requestId?, hr]
  simp only [ids]
  rw [requestIds_append, requestIds, hid, run_concat]
  rfl

/-- A runner that answers the first request twice, and nothing else. -/
def stuttering : Process where
  course _ :=
    let line := responseText 1 ⟨"once", "", none⟩ ++ "\n"
    ⟨[(0, Utf8.encode (line ++ line))], [], none, none, none, none, none, .complete 0⟩

/-- A host on which every command starts the runner that stutters. -/
def stutteringHost : Host := { hosting copying with start := fun _ => .ok stuttering }

/-- A module to run. -/
def someTarget : Target := ⟨Path.ofString "/w", ["tool"], "copy", .bundled⟩

/-- A run of the module. -/
def someInvocation : Invocation := ⟨["copy"], true, Path.ofString "/w", some "text"⟩

/-- The second answer to the first request is none to the second request. -/
theorem replies_attributed_stale :
    let p := new ["runner"] 1000
    let q := p.run [(stutteringHost, .invoke someTarget someInvocation)]
    (∃ reply, Answered stutteringHost p someTarget someInvocation reply) ∧
      (q.invoke stutteringHost someTarget someInvocation).2.find? someTarget.key = none := by
  intro p q
  have h := (replies_attributed p [(stutteringHost, .invoke someTarget someInvocation),
    (stutteringHost, .invoke someTarget someInvocation)]).2.2.2.2
  obtain ⟨hfirst, -⟩ := h [] stutteringHost someTarget someInvocation
    [(stutteringHost, .invoke someTarget someInvocation)] rfl
  obtain ⟨hsecond, -, hgiven⟩ := h [(stutteringHost, .invoke someTarget someInvocation)]
    stutteringHost someTarget someInvocation [] rfl
  have hresults : ((p.run []).invoke stutteringHost someTarget someInvocation).1 =
        .ofOutput "once" "" ∧
      (q.invoke stutteringHost someTarget someInvocation).1 =
        .failed ⟨.transport, "Response id 1 does not match request id 2", none⟩ := by
    decide +kernel
  obtain ⟨hone, htwo⟩ := hresults
  refine ⟨hfirst.1 ⟨fun hw => ?_, ?_⟩, (hgiven (fun hw => ?_) fun hr => ?_).2⟩
  · exact absurd (hone.symm.trans (invoke_of_waits hw)) (by decide)
  · rintro ⟨f, hf, -⟩
    rw [hone] at hf
    exact nomatch hf
  · exact absurd (htwo.symm.trans (invoke_of_waits hw)) (by decide)
  · refine (hsecond.2 hr).2 ?_
    rw [htwo]
    exact isTransport_failed _

end Pool

end Remote

end ToolRelay
