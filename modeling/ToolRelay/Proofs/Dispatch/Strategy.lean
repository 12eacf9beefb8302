import ToolRelay.Dispatch.Strategy

/-!
# When a tool is run in which way

The three ways exclude each other, and each is chosen under a condition on the record of settings
and on the program that runs now.

* `Strategy.select_eq_direct_iff`, `Strategy.select_eq_remote_iff`,
  `Strategy.select_eq_inProcess_iff` : the condition for each way.
-/

namespace ToolRelay

namespace Strategy

variable {record : SettingsRecord} {runtime : Path}

theorem select_of_toolPath (h : record.toolPath ≠ []) : select record runtime = .direct := by
  obtain ⟨program, args, htool⟩ := List.exists_cons_of_ne_nil h
  rw [select, htool]

theorem select_of_interpreter {interpreter : String} {args : List String}
    (htool : record.toolPath = []) (h : record.interpreterPath = interpreter :: args) :
    select record runtime =
      if (Path.ofString interpreter).same runtime then .inProcess else .remote := by
  rw [select, htool, h]

theorem select_of_nil (htool : record.toolPath = []) (h : record.interpreterPath = []) :
    select record runtime = .inProcess := by
  rw [select, htool, h]

theorem select_eq_direct_iff : select record runtime = .direct ↔ record.toolPath ≠ [] := by
  refine ⟨fun h htool => ?_, select_of_toolPath⟩
  cases hi : record.interpreterPath with
  | nil =>
    rw [select_of_nil htool hi] at h
    contradiction
  | cons interpreter args =>
    rw [select_of_interpreter htool hi] at h
    split at h <;> cases h

theorem select_eq_remote_iff : select record runtime = .remote ↔
    record.toolPath = [] ∧ ∃ interpreter args, record.interpreterPath = interpreter :: args ∧
      (Path.ofString interpreter).same runtime = false := by
  by_cases htool : record.toolPath = []
  · cases hi : record.interpreterPath with
    | nil => simp [select_of_nil htool hi]
    | cons interpreter args => simp [select_of_interpreter htool hi, htool]
  · simp [select_of_toolPath htool, htool]

theorem select_eq_inProcess_iff : select record runtime = .inProcess ↔
    record.toolPath = [] ∧ ∀ interpreter args, record.interpreterPath = interpreter :: args →
      (Path.ofString interpreter).same runtime = true := by
  by_cases htool : record.toolPath = []
  · cases hi : record.interpreterPath with
    | nil => simp [select_of_nil htool hi, htool]
    | cons interpreter args => simp [select_of_interpreter htool hi, htool]
  · simp [select_of_toolPath htool, htool]

end Strategy

end ToolRelay
