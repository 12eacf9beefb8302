import ToolRelay.Proofs.Schema.Overlay
import ToolRelay.Proofs.Wire.Message
import ToolRelay.Settings.Entry
import ToolRelay.Settings.Tool

/-!
# Settings lie over defaults

Settings and the messages to a runner are read back from what they are written as, and reading
copes with members that are left out, moved or added: a member that is there says what its field
is, and a field without its member has its default.  `LiesOverDefaults` says this of a schema, and
which members must be there.

* `GlobalSettings.faithful` and the like : settings are written without loss;
* `settings_lie_over_defaults` : the result for all settings and the two messages.
-/

namespace ToolRelay

open Json

variable {α : Type}

/-- The names of the members that must be there. -/
def Schema.requiredKeys : {α : Type} → Schema α → List String
  | _, .record _ fields _ _ => fields.required
  | _, _ => []

theorem Schema.lacks_without : {α : Type} → (s : Schema α) → {key : String} →
    {ms : List (String × Json)} → key ∈ s.requiredKeys → s.Lacks (.object (without key ms))
  | _, .record .., _, _, h =>
    .missing h (valuesUnder_eq_nil_iff.1 valuesUnder_without_self)

/-- What a schema `s` reads lies over defaults.  `Fits` says which values there are; the members
named in `keys` must be there, and `bare c` is `c` with the default in each field that has one. -/
structure Schema.LiesOverDefaults (s : Schema α) (Fits : α → Prop) (keys : List String)
    (bare : α → α) : Prop where
  /-- A value whose paths are text is read back from what it is written as; and after any edits of
  that, each field is read from its member if this is still there, and is the default if not. -/
  decode_of_edits : ∀ c, Fits c → s.TextPaths c → ∃ j, s.encode c = .ok j ∧ s.decode j = .ok c ∧
    ∀ j', Relation.ReflTransGen s.Edit j j' → s.decode j' = .ok (s.overlay c j')
  /-- These are the defaults. -/
  overlay_empty : ∀ c, s.overlay c (.object []) = bare c
  /-- These members have no default. -/
  requiredKeys_eq : s.requiredKeys = keys
  /-- Without one of them nothing is read. -/
  decode_without : ∀ key ∈ keys, ∀ ms, ∃ e, s.decode (.object (without key ms)) = .error e
  /-- The same for a member without default at any depth. -/
  decode_of_lacks : ∀ j, s.Lacks j → ∃ e, s.decode j = .error e

theorem Schema.liesOverDefaults {s : Schema α} {Fits : α → Prop} {bare : α → α}
    (hf : ∀ c, Fits c → s.Faithful c) (hbare : ∀ c, s.overlay c (.object []) = bare c) :
    s.LiesOverDefaults Fits s.requiredKeys bare where
  decode_of_edits c hc hp := by
    obtain ⟨j, hj⟩ := s.exists_encode hp
    exact ⟨j, hj, s.decode_encode (hf c hc) hj, fun j' h => Schema.decode_of_edits (hf c hc) hj h⟩
  overlay_empty := hbare
  requiredKeys_eq := rfl
  decode_without _ h _ := (s.lacks_without h).decode_error
  decode_of_lacks _ h := h.decode_error

/-! ### Settings are written without loss -/

namespace Schema

theorem optional_list_faithful {s : Schema α} (hs : ∀ a, s.Faithful a) (x : Option (List α)) :
    (Schema.optional (.list s)).Faithful x := by
  refine fun as _ => ⟨fun a _ => hs a, fun h => ?_⟩
  obtain ⟨_, -, h⟩ := exists_of_map_eq_ok h
  contradiction

theorem optional_texts_faithful (x : Option (List String)) :
    (Schema.optional (.list .text)).Faithful x :=
  optional_list_faithful (s := .text) (fun _ => trivial) x

theorem optional_choice_faithful {c : Choice α} (hc : ∀ a, c.read (c.name a) = .ok a)
    (x : Option α) : (Schema.optional (.choice c)).Faithful x :=
  fun a _ => ⟨hc a, nofun⟩

theorem optional_path_faithful (x : Option Path) : (Schema.optional .path).Faithful x := by
  refine fun p _ => ⟨trivial, ?_⟩
  rw [Schema.encode]
  split <;> simp

end Schema

theorem ImportStrategy.read_name (a : ImportStrategy) :
    ImportStrategy.choice.read (ImportStrategy.choice.name a) = .ok a := by
  cases a <;> rfl

theorem NotificationLevel.read_name (a : NotificationLevel) :
    NotificationLevel.choice.read (NotificationLevel.choice.name a) = .ok a := by
  cases a <;> rfl

theorem SyntaxCheckKind.read_name (a : SyntaxCheckKind) :
    SyntaxCheckKind.choice.read (SyntaxCheckKind.choice.name a) = .ok a := by
  cases a <;> rfl

open Schema

theorem GlobalSettings.faithful (g : GlobalSettings) : GlobalSettings.schema.Faithful g :=
  ⟨rfl, by decide, optional_texts_faithful _, trivial, optional_texts_faithful _, trivial,
    optional_texts_faithful _, trivial,
    optional_choice_faithful ImportStrategy.read_name _, trivial,
    optional_choice_faithful NotificationLevel.read_name _, trivial,
    fun _ _ => trivial, trivial, fun _ _ => trivial, trivial, trivial⟩

theorem WorkspaceEntry.faithful (e : WorkspaceEntry) : WorkspaceEntry.schema.Faithful e :=
  ⟨rfl, by decide, trivial, trivial, optional_texts_faithful _, trivial, optional_texts_faithful _,
    trivial, optional_texts_faithful _, trivial,
    optional_choice_faithful ImportStrategy.read_name _, trivial,
    optional_choice_faithful NotificationLevel.read_name _, trivial, trivial⟩

theorem EditorOptions.faithful (o : EditorOptions) : EditorOptions.schema.Faithful o :=
  ⟨rfl, by decide, o.global.faithful, trivial, optional_list_faithful WorkspaceEntry.faithful _,
    trivial, trivial⟩

theorem ToolSpec.faithful {t : ToolSpec} (h : t.timeoutMs ≤ 0xFFFFFFFFFFFFFFFF) :
    ToolSpec.schema.Faithful t :=
  ⟨rfl, by decide, trivial, trivial, trivial, trivial, fun _ _ => trivial, trivial,
    fun _ _ => trivial, trivial, trivial, trivial, fun _ _ => trivial, trivial, h, trivial,
    SyntaxCheckKind.read_name _, trivial, optional_path_faithful _, trivial, trivial⟩

theorem FileConfig.faithful {c : FileConfig} (h : c.tool.timeoutMs ≤ 0xFFFFFFFFFFFFFFFF) :
    FileConfig.schema.Faithful c :=
  ⟨rfl, by decide, ToolSpec.faithful h, trivial, c.global.faithful, trivial, trivial⟩

/-! ### All of them -/

/-- **Settings lie over defaults.**  Global settings, the tool, the configuration file, what the
editor says and the two messages of a run are read back from what they are written as, and from what
is left of it after edits, each field with its default if its member is left out.  Only the root of
a workspace and four parameters of a run have none, and nothing is read without one of them. -/
theorem settings_lie_over_defaults :
    GlobalSettings.schema.LiesOverDefaults (fun _ => True) [] (fun _ => .empty) ∧
    ToolSpec.schema.LiesOverDefaults (·.timeoutMs ≤ 0xFFFFFFFFFFFFFFFF) [] (fun _ => .standard) ∧
    FileConfig.schema.LiesOverDefaults (·.tool.timeoutMs ≤ 0xFFFFFFFFFFFFFFFF) []
      (fun _ => .standard) ∧
    EditorOptions.schema.LiesOverDefaults (fun _ => True) [] (fun _ => .empty) ∧
    WorkspaceEntry.schema.LiesOverDefaults (fun _ => True) ["workspace"]
      (fun e => ⟨e.workspace, none, none, none, none, none⟩) ∧
    Wire.RunParams.schema.LiesOverDefaults (fun _ => True) ["module", "argv", "useStdin", "cwd"]
      (fun p => ⟨p.module, p.argv, p.useStdin, p.cwd, none, none⟩) ∧
    Wire.RunReply.schema.LiesOverDefaults (fun _ => True) [] (fun _ => ⟨"", "", none⟩) :=
  ⟨liesOverDefaults (fun g _ => g.faithful) fun _ => rfl,
    liesOverDefaults (fun _ h => ToolSpec.faithful h) fun _ => rfl,
    liesOverDefaults (fun _ h => FileConfig.faithful h) fun _ => rfl,
    liesOverDefaults (fun o _ => o.faithful) fun _ => rfl,
    liesOverDefaults (fun e _ => e.faithful) fun _ => rfl,
    liesOverDefaults (fun p _ => Wire.RunParams.faithful p) fun _ => rfl,
    liesOverDefaults (fun r _ => Wire.RunReply.faithful r) fun _ => rfl⟩

/-- Options with an argument for all workspaces, and one workspace. -/
def EditorOptions.sample : EditorOptions where
  global := { GlobalSettings.empty with args := some ["-v"] }
  settings := some [⟨"/w", some ["tool"], none, none, some .bundled, none⟩]

/-- What the workspace of the sample is written as. -/
def WorkspaceEntry.sampleMembers : List (String × Json) :=
  [("workspace", .text "/w"), ("path", .texts ["tool"]), ("interpreter", .null), ("args", .null),
    ("importStrategy", .text "useBundled"), ("showNotifications", .null)]

theorem settings_lie_over_defaults_sample :
    (∃ j, FileConfig.schema.encode .standard = .ok j ∧ FileConfig.schema.decode j = .ok .standard) ∧
    EditorOptions.schema.decode (.object
        [("settings", .array [.object (without "path" WorkspaceEntry.sampleMembers)]),
          ("extra", .null)]) =
      .ok ⟨.empty, some [⟨"/w", none, none, none, some .bundled, none⟩]⟩ ∧
    ∃ e, EditorOptions.schema.decode (.object
        [("settings", .array [.object (without "workspace" WorkspaceEntry.sampleMembers)])]) =
      .error e := by
  obtain ⟨-, -, hfile, hoptions, -⟩ := settings_lie_over_defaults
  obtain ⟨file, hwritten, hread, -⟩ := hfile.decode_of_edits .standard (by decide)
    ⟨⟨trivial, trivial, fun _ _ => trivial, fun _ _ => trivial, trivial, fun _ _ => trivial,
      trivial, trivial, nofun, trivial⟩,
      ⟨nofun, nofun, nofun, nofun, nofun, nofun, nofun, trivial⟩, trivial⟩
  obtain ⟨j, hj, -, hedits⟩ := hoptions.decode_of_edits .sample trivial
    ⟨⟨nofun, nofun, fun _ _ _ _ => trivial, nofun, nofun, nofun, nofun, trivial⟩,
      fun _ _ _ _ => ⟨trivial, fun _ _ _ _ => trivial, fun _ _ _ _ => trivial,
        fun _ _ _ _ => trivial, fun _ _ => trivial, fun _ _ => trivial, trivial⟩, trivial⟩
  obtain ⟨global, hglobal⟩ : ∃ global, EditorOptions.schema.encode .sample = .ok (.object
      [("globalSettings", global),
        ("settings", .array [.object WorkspaceEntry.sampleMembers])]) := ⟨_, rfl⟩
  obtain rfl := Except.ok.inj (hglobal.symm.trans hj)
  have hsettings : (Fields.cons "globalSettings" (.orElse .empty) GlobalSettings.schema <|
      .cons "settings" (.orElse none) (.optional (.list WorkspaceEntry.schema)) .nil).Has
        "settings" (.optional (.list WorkspaceEntry.schema)) :=
    .tail _ _ (by decide) (.head _ _)
  refine ⟨⟨file, hwritten, hread⟩, ?_, hoptions.decode_of_lacks _ ?_⟩
  · have hpath : WorkspaceEntry.schema.Edit (.object WorkspaceEntry.sampleMembers)
        (.object (without "path" WorkspaceEntry.sampleMembers)) := .delete (by decide)
    have hinside : EditorOptions.schema.Edit
        (.object ([] ++ [("settings", .array ([] ++ [.object WorkspaceEntry.sampleMembers]))]))
        (.object ([] ++ [("settings",
          .array ([] ++ [.object (without "path" WorkspaceEntry.sampleMembers)]))])) :=
      .member hsettings (.value (.item hpath))
    have hglobal : EditorOptions.schema.Edit
        (.object [("globalSettings", global),
          ("settings", .array [.object WorkspaceEntry.sampleMembers])])
        (.object [("settings", .array [.object WorkspaceEntry.sampleMembers])]) :=
      .delete (by decide : "globalSettings" ∉ _)
    have hextra (ms : List (String × Json)) :
        EditorOptions.schema.Edit (.object ms) (.object (("extra", .null) :: ms)) :=
      .add (by decide)
    refine (hedits _ (.tail (.tail (.tail (.single hglobal) hinside) (hextra _)) ?_)).trans rfl
    exact .reorder (.swap ..)
  · exact .member hsettings (List.mem_singleton_self _) (.value (.item (List.mem_singleton_self _)
      (.missing (by decide : "workspace" ∈ _) (by decide))))

end ToolRelay
