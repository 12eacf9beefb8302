import ToolRelay.Proofs.Text.Split
import ToolRelay.Proofs.Text.Utf8
import ToolRelay.Runner.Serve

/-!
# The lines of an input

`Runner.Cut` says how an input falls into lines: each line goes up to the next line feed, and what
is left after the last one is a line of its own.  `Runner.cut_inputLines` : this is how the runner
cuts it.
-/

namespace ToolRelay

namespace Runner

/-- The octet that ends a line. -/
abbrev newline : UInt8 := 0x0A

/-- `Cut input lines` : `lines` are the lines of `input`, each with its line feed; the last one may
have none. -/
inductive Cut : Bytes → List Bytes → Prop
  | nil : Cut [] []
  | last {line : Bytes} (h : line ≠ []) (hn : newline ∉ line) : Cut line [line]
  | line {line rest : Bytes} {lines : List Bytes} (hn : newline ∉ line) (h : Cut rest lines) :
      Cut (line ++ newline :: rest) ((line ++ [newline]) :: lines)

theorem beq_newline_eq_false {line : Bytes} (h : newline ∉ line) :
    ∀ b ∈ line, (b == newline) = false := fun _ hb => beq_false_of_ne fun he => h (he ▸ hb)

theorem inputLines_of_not_mem {line : Bytes} (h : line ≠ []) (hn : newline ∉ line) :
    inputLines line = [line] := by
  simp [inputLines, Text.splitOnAll_of_forall (beq_newline_eq_false hn), h]

theorem inputLines_append_cons {line : Bytes} (hn : newline ∉ line) (rest : Bytes) :
    inputLines (line ++ newline :: rest) = (line ++ [newline]) :: inputLines rest := by
  have hs := Text.splitOnAll_append_cons (p := (· == newline)) (x := newline) (by decide) line rest
  rw [Text.splitOnAll_of_forall (beq_newline_eq_false hn)] at hs
  cases hr : Text.splitOnAll (· == newline) rest with
  | nil => exact absurd hr (Text.splitOnAll_ne_nil rest)
  | cons piece pieces =>
    rw [hr] at hs
    simp [inputLines, hs, hr]

/-- Whole lines are cut into these lines. -/
theorem inputLines_flatMap {bodies : List Bytes} (h : ∀ body ∈ bodies, newline ∉ body) :
    inputLines (bodies.flatMap (· ++ [newline])) = bodies.map (· ++ [newline]) := by
  induction bodies with
  | nil => rfl
  | cons body bodies ih =>
    obtain ⟨hbody, hbodies⟩ := List.forall_mem_cons.1 h
    rw [List.flatMap_cons, List.append_assoc, List.singleton_append,
      inputLines_append_cons hbody, ih hbodies, List.map_cons]

theorem cut_inputLines (input : Bytes) : Cut input (inputLines input) := by
  induction hl : input.length using Nat.strongRecOn generalizing input with
  | ind n ih =>
    by_cases hn : newline ∈ input
    · obtain ⟨line, rest, rfl, hline⟩ := List.eq_append_cons_of_mem hn
      rw [inputLines_append_cons hline]
      exact .line hline (ih rest.length (by simp at hl; omega) rest rfl)
    · cases input with
      | nil => exact .nil
      | cons b bs =>
        rw [inputLines_of_not_mem (List.cons_ne_nil _ _) hn]
        exact .last (List.cons_ne_nil _ _) hn

/-- There is only one way to cut an input. -/
theorem Cut.eq_inputLines {input : Bytes} {lines : List Bytes} (h : Cut input lines) :
    lines = inputLines input := by
  induction h with
  | nil => rfl
  | last hne hn => rw [inputLines_of_not_mem hne hn]
  | line hn _ ih => rw [inputLines_append_cons hn, ← ih]

/-- Every line is the one line of itself. -/
theorem Cut.inputLines_of_mem {input line : Bytes} {lines : List Bytes} (h : Cut input lines)
    (hl : line ∈ lines) : inputLines line = [line] := by
  induction h with
  | nil => contradiction
  | last hne hn =>
    obtain rfl := List.mem_singleton.1 hl
    exact inputLines_of_not_mem hne hn
  | line hn _ ih =>
    obtain rfl | hl := List.mem_cons.1 hl
    · exact inputLines_append_cons hn []
    · exact ih hl

/-- Whole lines and nothing after them. -/
def Whole (input : Bytes) : Prop := input = [] ∨ input.getLast? = some newline

theorem whole_nil : Whole [] := .inl rfl

theorem whole_line (line : Bytes) : Whole (line ++ [newline]) := .inr List.getLast?_concat

theorem Whole.append {input more : Bytes} (h : Whole input) (h' : Whole more) :
    Whole (input ++ more) := by
  obtain rfl | hm := h'
  · rwa [List.append_nil]
  · exact .inr (by rw [List.getLast?_append, hm]; rfl)

theorem Cut.inputLines_append {input : Bytes} {lines : List Bytes} (h : Cut input lines)
    (hw : Whole input) (more : Bytes) : inputLines (input ++ more) = lines ++ inputLines more := by
  induction h with
  | nil => rfl
  | last hne hn => exact absurd (List.mem_of_getLast? (hw.resolve_left hne)) hn
  | @line line rest lines hn _ ih =>
    -- what comes after the first line is whole as well
    have hrest : Whole rest := by
      cases rest with
      | nil => exact .inl rfl
      | cons b bs =>
        refine .inr ?_
        have := hw.resolve_left (by simp)
        rwa [List.getLast?_append, List.getLast?_cons_cons,
          Option.or_eq_left_of_isSome (by simp)] at this
    rw [List.append_assoc, List.cons_append, inputLines_append_cons hn, ih hrest, List.cons_append]

end Runner

end ToolRelay
