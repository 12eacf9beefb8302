import ToolRelay.Proofs.Settings.Build
import ToolRelay.Proofs.Schema.Decode

/-!
# Layers of settings

A setting is looked for in layers: in the entry of a workspace, in what the editor says about all
workspaces, in the configuration file, and at last among the built-in defaults.

* `GlobalSettings.merge_assoc`, `GlobalSettings.empty_merge`, `GlobalSettings.merge_empty` : global
  settings are a monoid under `merge`.
* `Snapshot.recordFor_merge` : each field of a record is that of the uppermost layer that sets it.
* `EditorOptions.value_ofPayload_of_unread` : options that cannot be read say nothing.
* `WorkspaceEntry.ofChange?_object` and `WorkspaceEntry.getD_ofChange?_of_unread` : where entries
  are looked for in a payload, and what counts as none.
-/

namespace ToolRelay

namespace GlobalSettings

@[simp]
theorem empty_merge (g : GlobalSettings) : empty.merge g = g := by
  cases g with
  | mk path interpreter args strategy level stdlib exclude =>
    cases stdlib <;> cases exclude <;> simp [merge, empty]

@[simp]
theorem merge_empty (g : GlobalSettings) : g.merge empty = g := by
  simp [merge, empty]

theorem merge_assoc (a b c : GlobalSettings) : (a.merge b).merge c = a.merge (b.merge c) := by
  have hlist {α : Type} (as bs cs : List α) : (if cs = [] then if bs = [] then as else bs else cs) =
      if (if cs = [] then bs else cs) = [] then as else if cs = [] then bs else cs := by
    by_cases h : cs = [] <;> simp [h]
  simp only [merge, Option.orElse_eq_orElse, Option.orElse_eq_or, Option.or_assoc, hlist]

end GlobalSettings

/-- The record for a root from all layers: each field is that of the entry if it is set there, else
that of the editor, else that of the configuration file, else the built-in default. -/
def SettingsRecord.layered (runtime : Path) (entry : Option WorkspaceEntry)
    (editor file : GlobalSettings) (root : Path) : SettingsRecord where
  workspaceRoot := root
  cwd := root
  toolPath := (entry.bind (·.path) <|> editor.path <|> file.path).getD []
  interpreterPath :=
    (entry.bind (·.interpreter) <|> editor.interpreter <|> file.interpreter).getD [runtime.display]
  extraArgs := (entry.bind (·.args) <|> editor.args <|> file.args).getD []
  importStrategy :=
    (entry.bind (·.importStrategy) <|> editor.importStrategy <|> file.importStrategy).getD .standard
  notificationLevel :=
    (entry.bind (·.showNotifications) <|> editor.showNotifications <|>
      file.showNotifications).getD .standard

theorem Snapshot.recordFor_merge {host : Host} {runtime : Path} {editor file : GlobalSettings}
    {es : List WorkspaceEntry} {root : Path} :
    recordFor host runtime (file.merge editor) es root =
      .layered runtime (WorkspaceEntry.last? host root es) editor file root := by
  rw [recordFor]
  cases WorkspaceEntry.last? host root es with
  | none => rfl
  | some e =>
    simp only [Option.elim_some, SettingsRecord.overlay, SettingsRecord.ofGlobal,
      SettingsRecord.layered, GlobalSettings.merge, Option.bind_some, Option.orElse_eq_orElse,
      Option.orElse_eq_or, Option.getD_or]

/-! ### Options -/

namespace EditorOptions

theorem value_ofPayload_of_decode {j : Json} {o : EditorOptions} (h : schema.decode j = .ok o) :
    (ofPayload (some j)).value = o := by
  rw [ofPayload, h]
  rfl

/-- Options that are absent or malformed say nothing. -/
theorem value_ofPayload_of_unread {options : Option Json}
    (h : ∀ j, options = some j → ∃ e, schema.decode j = .error e) :
    (ofPayload options).value = .empty := by
  cases options with
  | none => rfl
  | some j =>
    obtain ⟨e, he⟩ := h j rfl
    rw [ofPayload, he]
    rfl

end EditorOptions

/-! ### Changes of the configuration -/

namespace WorkspaceEntry

/-- The array in a payload: the payload itself, or its member `settings`. -/
def arrayIn? : Json → Option (List Json)
  | .array items => some items
  | .object members =>
    match Json.lookup "settings" members with
    | some (.array items) => some items
    | _ => none
  | _ => none

/-- It does not matter whether an array stands alone or under `settings`. -/
theorem ofChange?_object {members : List (String × Json)} {items : List Json}
    (h : Json.lookup "settings" members = some (.array items)) :
    ofChange? (.object members) = ofChange? (.array items) := by
  rw [ofChange?, ofChange?, listIn?, h]
  rfl

theorem value_ofChange?_of_decode {items : List Json} {es : List WorkspaceEntry}
    (h : List.Forall₂ (fun j e => schema.decode j = .ok e) items es) :
    (ofChange? (.array items)).value = some es := by
  have hread : (Schema.list schema).decode (.array items) = .ok es :=
    Json.readAll_eq_ok_iff.2 h
  rw [ofChange?, listIn?]
  simp only [hread]
  rfl

/-- A list in a payload that can be read is an array, and each item of it can be read. -/
theorem exists_of_decode_listIn? {payload j : Json} {es : List WorkspaceEntry}
    (hj : listIn? payload = some j) (h : (Schema.list schema).decode j = .ok es) :
    ∃ items, arrayIn? payload = some items ∧
      List.Forall₂ (fun j e => schema.decode j = .ok e) items es := by
  cases j with
  | array items =>
    refine ⟨items, ?_, Json.readAll_eq_ok_iff.1 h⟩
    cases payload with
    | array => exact congrArg _ (Json.array.inj (Option.some.inj hj))
    | object members =>
      rw [listIn?, Option.filter_eq_some_iff] at hj
      rw [arrayIn?, hj.1]
    | _ => contradiction
  | _ => contradiction

/-- A payload without an array, or with an array in which an item is malformed, has no entries. -/
theorem value_ofChange?_of_unread {payload : Json}
    (h : ∀ items, arrayIn? payload = some items → ∃ j ∈ items, ∃ e, schema.decode j = .error e) :
    (ofChange? payload).value = none := by
  rw [ofChange?]
  cases hj : listIn? payload with
  | none => rfl
  | some j =>
    cases hread : (Schema.list schema).decode j with
    | error e => simp only [hread]; rfl
    | ok es =>
      obtain ⟨items, hitems, hes⟩ := exists_of_decode_listIn? hj hread
      obtain ⟨item, hitem, e, he⟩ := h items hitems
      obtain ⟨i, hi, rfl⟩ := List.getElem_of_mem hitem
      have hentry := hes.get hi (hes.length_eq ▸ hi)
      rw [List.get_eq_getElem, he] at hentry
      contradiction

end WorkspaceEntry

end ToolRelay
