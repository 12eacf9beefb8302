import ToolRelay.Proofs.Remote.Exchange
import ToolRelay.Remote.Fleet

/-!
# How runners come to their end

A runner that fails is killed.  One that is not wanted any more is asked to exit, and is killed only
if it does not do so in time.  In both cases its standard input is closed, and the program waits
until the process has ended (`Departure.Over`).

* `Conversation.killed_kill` : what killing a runner comes to;
* `Conversation.ask?_eq_none_iff` : when the program waits for ever for a runner to take the line
  that asks it to exit;
* `Conversation.dismissed_of_terminate?` : what asking a runner to exit comes to otherwise.
-/

namespace ToolRelay

open Json

/-- A process that is killed has ended by then. -/
theorem Course.endingIfKilled_le (c : Course) (moment : Moment) :
    (c.endingIfKilled moment).1 ≤ moment := by
  unfold endingIfKilled
  split
  · split_ifs with h
    · exact h
    · exact Nat.le_refl _
  · exact Nat.le_refl _

namespace Remote

/-- A process has ended, by the moment `last`, and nothing can be written to it any more. -/
structure Departure.Over (d : Departure) (last : Moment) : Prop where
  /-- Closing its input is the last thing that was done to it. -/
  closed : ∃ feeds moment, d.feeds = feeds ++ [.close moment]
  /-- It has ended. -/
  ended : ∃ moment exit, d.exit? = some (moment, exit) ∧ moment ≤ last

namespace Conversation

variable {c c' : Conversation} {d : Departure} {course : Course} {closed : Moment}

/-! ### Killing a runner -/

/-- `d` is what becomes of the runner of the conversation `c` when it is killed: at the moment of
the last event its input is closed and its process is killed, so that it has ended by then. -/
structure Killed (c : Conversation) (d : Departure) : Prop where
  /-- It is the process of the conversation. -/
  process_eq : d.process = c.process
  /-- Nothing more is written to it. -/
  feeds_eq : d.feeds = c.feeds ++ [.close c.now]
  /-- It is killed now. -/
  ending_eq : d.ending = .killed c.now
  /-- It has ended by now. -/
  isOver : d.Over c.now

theorem killed_kill (c : Conversation) : c.Killed c.kill where
  process_eq := rfl
  feeds_eq := rfl
  ending_eq := rfl
  isOver :=
    { closed := ⟨c.feeds, c.now, rfl⟩
      ended := ⟨_, _, rfl, Course.endingIfKilled_le _ _⟩ }

/-! ### Asking a runner to exit -/

/-- The line that asks a runner to exit. -/
def exitText : String :=
  (Json.object [("jsonrpc", .text Wire.version), ("method", .text Wire.methodExit),
    ("params", .null)]).compact ++ "\n"

theorem exitLine_eq : exitLine = .ok exitText := rfl

/-- A runner stops at this line. -/
theorem stops_exitText : Runner.stops (Utf8.encode exitText) = true := by decide +kernel

/-- The pipe to the runner is full, and it never takes the line that asks it to exit. -/
def Stalls (c : Conversation) : Prop := (c.tell exitText).course.delivery = .stuck

/-- **When the program waits for ever** for a runner to take the line. -/
theorem ask?_eq_none_iff : c.ask? = none ↔ c.Stalls := by
  rw [ask?, exitLine_eq, Stalls]
  unfold send
  dsimp only
  cases (c.tell exitText).course.delivery <;> simp

/-- Otherwise the line has been given to the pipe, even if the runner does not read it. -/
theorem eq_of_ask? (h : c.ask? = some c') : ∃ moment, c' = (c.tell exitText).advance moment := by
  rw [ask?, exitLine_eq] at h
  unfold send at h
  dsimp only at h
  split at h
  · contradiction
  · rename_i hsend
    split at hsend
    · cases hsend
      exact ⟨_, (Option.some.inj h).symm⟩
    · cases hsend
      exact ⟨_, (Option.some.inj h).symm⟩
    · cases hsend
      contradiction

theorem le_patience (course : Course) (closed : Moment) : closed ≤ patience course closed := by
  unfold patience
  split
  · exact Nat.le_min.2 ⟨Nat.le_max_left _ _, Nat.le_add_right _ _⟩
  · exact Nat.le_add_right _ _

theorem patience_le (course : Course) (closed : Moment) :
    patience course closed ≤ closed + graceMs := by
  unfold patience
  split
  · exact Nat.min_le_right _ _
  · exact Nat.le_refl _

/-- The grace is granted as long as the system says whether the process has ended. -/
theorem patience_eq (h : course.waitRefusal = none) :
    patience course closed = closed + graceMs := by
  rw [patience, h]

/-- How a process that has been asked to exit, and whose input was closed at the moment `closed`,
is brought to its end. -/
inductive Leaves (course : Course) (closed : Moment) : Ending → Prop where
  /-- It ends by itself within the grace. -/
  | exited {moment : Moment} {exit : Exit} (h : course.ending = some (moment, exit))
      (hm : moment ≤ closed + graceMs) : Leaves course closed .exited
  /-- It has not ended by the moment `last`, and is killed.  This is the end of the grace, or the
  system does not say any more whether the process has ended. -/
  | killed {last : Moment} (h : ∀ e ∈ course.ending, last < e.1) (hfirst : closed ≤ last)
      (hlast : last ≤ closed + graceMs)
      (hgrace : course.waitRefusal = none → last = closed + graceMs) :
      Leaves course closed (.killed last)

/-- `d` is what becomes of the runner of the conversation `c` when it is asked to exit: the line
that says so is given to it and its input is closed, and either it ends within the grace or it is
killed, so that it has ended when the grace is over. -/
structure Dismissed (c : Conversation) (d : Departure) : Prop where
  /-- It is the process of the conversation. -/
  process_eq : d.process = c.process
  /-- It is asked to exit, and then its input is closed. -/
  asked : ∃ closed, c.now ≤ closed ∧
    d.feeds = c.feeds ++ [.bytes c.now (Utf8.encode exitText), .close closed] ∧
    Leaves (d.process.course d.feeds) closed d.ending ∧ d.Over (closed + graceMs)

/-- A process that leaves has ended when the grace is over. -/
theorem Leaves.ended (h : Leaves (d.process.course d.feeds) closed d.ending) :
    ∃ moment exit, d.exit? = some (moment, exit) ∧ moment ≤ closed + graceMs := by
  unfold Departure.exit?
  cases hending : d.ending with
  | exited =>
    rw [hending] at h
    cases h with
    | exited h hm => exact ⟨_, _, h, hm⟩
  | killed moment =>
    rw [hending] at h
    cases h with
    | killed _ _ hlast => exact ⟨_, _, rfl, Nat.le_trans (Course.endingIfKilled_le _ _) hlast⟩

/-- The ending that is chosen for a process that has been asked to exit. -/
theorem leaves_ite (course : Course) (closed : Moment) :
    Leaves course closed
      (if course.ending.any (·.1 ≤ patience course closed) then .exited
        else .killed (patience course closed)) := by
  have hkilled (h : ∀ e ∈ course.ending, patience course closed < e.1) :
      Leaves course closed (.killed (patience course closed)) :=
    .killed h (le_patience _ _) (patience_le _ _) patience_eq
  cases he : course.ending with
  | none => exact hkilled (by simp [he])
  | some ending =>
    obtain ⟨moment, exit⟩ := ending
    rw [Option.any_some]
    by_cases h : moment ≤ patience course closed
    · rw [decide_eq_true h, if_pos rfl]
      exact .exited he (Nat.le_trans h (patience_le _ _))
    · rw [decide_eq_false h, if_neg Bool.false_ne_true]
      exact hkilled (by simpa [he] using h)

theorem leaves_dismiss (c : Conversation) :
    Leaves (c.dismiss.process.course c.dismiss.feeds) c.now c.dismiss.ending := leaves_ite ..

/-- **What asking a runner to exit comes to**, if the program does not wait for it for ever. -/
theorem dismissed_of_terminate? (h : c.terminate? = some d) : c.Dismissed d := by
  obtain ⟨c', hask, rfl⟩ := Option.map_eq_some_iff.1 h
  obtain ⟨moment, hc'⟩ := eq_of_ask? hask
  have hover : c'.dismiss.Over (c'.now + graceMs) :=
    ⟨⟨c'.feeds, c'.now, rfl⟩, (leaves_dismiss c').ended⟩
  refine ⟨?_, c'.now, ?_, ?_, leaves_dismiss c', hover⟩
  · rw [dismiss, hc']
    rfl
  · rw [hc']
    exact Nat.le_max_left _ _
  · rw [dismiss, hc']
    exact List.append_assoc _ _ _

theorem terminate?_eq_none_iff : c.terminate? = none ↔ c.Stalls := by
  rw [terminate?, Option.map_eq_none_iff, ask?_eq_none_iff]

end Conversation

end Remote

end ToolRelay
