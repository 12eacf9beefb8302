import ToolRelay.Output.Channel

/-!
# What a channel sends

Every message is a line of the output log, and a notification as well if the level of the channel
lets it through (`OutputChannel.lines`).  Messages are `Governed` by a level if a channel of this
level may have sent them.

* `OutputChannel.governed_lines_iff` : whether a message is governed by a level shows if its own
  channel and the level disagree about raising it, and only then.
-/

namespace ToolRelay

theorem MessageLevel.isRaised_max (l : MessageLevel) (a b : NotificationLevel) :
    l.isRaised (a.max b) = (l.isRaised a || l.isRaised b) := by
  cases l <;> cases a <;> cases b <;> rfl

namespace OutputChannel

/-- What a channel sends for a message. -/
def lines (channel : OutputChannel) (level : MessageLevel) (text : String) : List Message :=
  ⟨level, text, false⟩ :: if level.isRaised channel.notifications then [⟨level, text, true⟩] else []

theorem messages_emit (channel : OutputChannel) (level : MessageLevel) (text : String) :
    (channel.emit level text).messages = channel.lines level text := by
  rw [emit, lines, Traced.messages_bind]
  split <;> rfl

theorem deeds_emit (channel : OutputChannel) (level : MessageLevel) (text : String) :
    (channel.emit level text).deeds = [] := by
  rw [emit, Traced.deeds_bind]
  split <;> rfl

/-- Each of the messages `ms` is a line of the output log, and it is raised as well, right after
it, if and only if the level `level` lets it through. -/
def Governed (level : NotificationLevel) (ms : List Message) : Prop :=
  ∃ said : List (MessageLevel × String),
    ms = said.flatMap fun m => (OutputChannel.mk level).lines m.1 m.2

variable {level : NotificationLevel}

theorem governed_nil (level : NotificationLevel) : Governed level [] := ⟨[], rfl⟩

/-- One computation after another. -/
theorem Governed.bind {α β : Type} {x : Traced α} {f : α → Traced β}
    (h : Governed level x.messages) (h' : Governed level (f x.value).messages) :
    Governed level (x >>= f).messages := by
  obtain ⟨said, hx⟩ := h
  obtain ⟨said', hf⟩ := h'
  exact ⟨said ++ said', by rw [Traced.messages_bind, hx, hf, List.flatMap_append]⟩

theorem governed_emit (channel : OutputChannel) (l : MessageLevel) (text : String) :
    Governed channel.notifications (channel.emit l text).messages :=
  ⟨[(l, text)], by rw [messages_emit, List.flatMap_singleton]⟩

theorem governed_lines_iff (channel : OutputChannel) (l : MessageLevel) (text : String) :
    Governed level (channel.lines l text) ↔
      l.isRaised channel.notifications = l.isRaised level := by
  constructor
  · rintro ⟨said, h⟩
    cases said with
    | nil => contradiction
    | cons first rest =>
      obtain ⟨l', text'⟩ := first
      rw [List.flatMap_cons, lines, lines, List.cons_append, List.cons.injEq,
        Message.mk.injEq] at h
      obtain ⟨⟨rfl, rfl, -⟩, h⟩ := h
      cases ha : l.isRaised channel.notifications <;> cases hb : l.isRaised level
      · rfl
      · simp [ha, hb] at h
      · -- what follows a line of the log would have to be a line of the log again
        rw [ha, hb] at h
        cases rest <;> simp [lines] at h
      · rfl
  · intro h
    refine ⟨[(l, text)], ?_⟩
    rw [List.flatMap_singleton, lines, lines, h]

end OutputChannel

end ToolRelay
