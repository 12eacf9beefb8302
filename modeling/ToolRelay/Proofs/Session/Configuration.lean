import ToolRelay.Proofs.Dispatch.Execute
import ToolRelay.Proofs.Session.Texts
import ToolRelay.Proofs.Settings.History
import ToolRelay.Proofs.Settings.Layers

/-!
# The settings of a session

An editor opens a session with options and then asks for things (`Session.run`).  Only changes of
the configuration reach the settings, so the store of a session is a store along a history: it is
opened by the configuration file, opened again by the editor, and then its entries are replaced
(`Session.store_run`).

* `Dispatcher.store_execute` : a run of the tool leaves the settings alone.
* `Session.store_requests` : what a session does to its store.
* `Session.settings_layered` : the settings come in layers, at every moment of a session.
-/

namespace ToolRelay

/-! ### What leaves the settings alone -/

namespace Dispatcher

theorem store_perform (host : Host) (d : Dispatcher) (p : Prepared) :
    (d.perform host p).2.store = d.store := by
  cases hs : p.strategy with
  | direct => rw [perform_direct hs]
  | remote =>
    rw [perform_remote hs]
    rfl
  | inProcess =>
    rw [perform_inProcess hs]
    rfl

theorem store_execute (host : Host) (d : Dispatcher) (p : Prepared) (label : String) :
    (d.execute host p label).value.2.store = d.store := by
  rw [execute_dispatcher, store_perform]

theorem store_runDocument (host : Host) (d : Dispatcher) (document : Document) (useStdin : Bool)
    (extra : List String) :
    (d.runDocument host document useStdin extra).value.2.store = d.store := by
  rw [runDocument, Traced.value_bind]
  split
  · rfl
  · exact store_execute host d _ _

theorem store_runGlobal (host : Host) (d : Dispatcher) (extra : List String) :
    (d.runGlobal host extra).value.2.store = d.store :=
  store_execute host d _ _

end Dispatcher

namespace Session

/-- The settings of a session. -/
def store (s : Session) : Store := s.dispatcher.store

theorem store_runOn (host : Host) (s : Session) (uri : Uri) (text : String) :
    (s.runOn host uri text).value.store = s.store := by
  have h := Dispatcher.store_runDocument host s.dispatcher (documentOf uri text)
    s.dispatcher.tool.useStdin []
  simp only [runOn, Traced.value_bind]
  split <;> exact h

theorem store_document (host : Host) (s : Session) (e : DocumentEvent) :
    (s.document host e).value.store = s.store := by
  rw [document]
  split
  · exact store_runOn host _ _ _
  · rfl

theorem store_command (host : Host) (s : Session) (name : String) (arguments : List Json) :
    (s.command host name arguments).value.2.store = s.store := by
  rw [command]
  split
  · rfl
  · exact Dispatcher.store_runGlobal host _ _

/-! ### Requests -/

/-- Something that the editor asks of a session. -/
inductive Request where
  /-- To take a change of the configuration. -/
  | configure (payload : Json)
  /-- To take what happened to a document. -/
  | document (e : DocumentEvent)
  /-- To carry out a command. -/
  | command (name : String) (arguments : List Json)

/-- The payload of a change of the configuration. -/
def Request.payload? : Request → Option Json
  | .configure payload => some payload
  | .document _ | .command .. => none

/-- A session after a request. -/
def request (host : Host) (s : Session) : Request → Traced Session
  | .configure payload => s.configure host payload
  | .document e => s.document host e
  | .command name arguments => do return (← s.command host name arguments).2

/-- A session after requests, one after another; each finds the outside world in a state of its
own. -/
def requests (s : Session) : List (Host × Request) → Traced Session
  | [] => pure s
  | (host, r) :: rest => do (← s.request host r).requests rest

/-- A session from its start: the editor opens it with options, and then come requests. -/
def run (host : Host) (setup : Setup) (opening : Host) (options : Option Json)
    (rs : List (Host × Request)) : Traced Session := do
  let s ← start host setup
  let s ← s.setUp opening options
  s.requests rs

/-- The changes of the configuration among requests, as changes of the store. -/
def configurations (rs : List (Host × Request)) : List (Host × Store.Change) :=
  rs.filterMap fun (host, r) =>
    r.payload?.map fun payload => (host, .replace (WorkspaceEntry.ofChange? payload).value)

/-- The entries that count in a session: those of the last change of the configuration, or else
those with which it was opened.  They are seen as on the host of that moment. -/
def lastEntries (opening : Host) (options : EditorOptions) (rs : List (Host × Request)) :
    Host × List WorkspaceEntry :=
  match (configurations rs).getLast? with
  | some (host, change) => (host, change.entries)
  | none => (opening, options.settings.getD [])

/-- The calls that open the store of a session: the configuration file gives global settings, and
the editor lays its own over them and gives entries. -/
def openings (host : Host) (setup : Setup) (opening : Host) (editor : EditorOptions) :
    List (Host × Store.Change) :=
  [(host, .setUp setup.global none),
    (opening, .setUp (setup.global.merge editor.global) editor.settings)]

theorem store_configure (host : Host) (s : Session) (payload : Json) :
    (s.configure host payload).value.store =
      (s.store.replace host (WorkspaceEntry.ofChange? payload).value).value := rfl

/-- Of all requests only a change of the configuration is a call for the store. -/
theorem store_request (host : Host) (s : Session) (r : Request) :
    (s.request host r).value.store = (s.store.changes (configurations [(host, r)])).value := by
  cases r with
  | configure payload => exact store_configure host s payload
  | document e => exact store_document host s e
  | command name arguments => exact store_command host s name arguments

theorem configurations_cons (call : Host × Request) (rs : List (Host × Request)) :
    configurations (call :: rs) = configurations [call] ++ configurations rs := by
  rw [configurations, ← List.singleton_append, List.filterMap_append]
  rfl

theorem store_requests (s : Session) (rs : List (Host × Request)) :
    (s.requests rs).value.store = (s.store.changes (configurations rs)).value := by
  induction rs generalizing s with
  | nil => rfl
  | cons first rest ih =>
    rw [requests, Traced.value_bind, ih, store_request, configurations_cons first rest,
      Store.value_changes_append]

/-- The store of a session is a store along a history. -/
theorem store_run (host : Host) (setup : Setup) (opening : Host) (options : Option Json)
    (rs : List (Host × Request)) :
    (run host setup opening options rs).value.store =
      ((Store.new setup.runtime).changes
        (openings host setup opening (EditorOptions.ofPayload options).value ++
          configurations rs)).value := by
  rw [run, Traced.value_bind, Traced.value_bind, store_requests, Store.value_changes_append]
  rfl

theorem global?_of_mem_configurations {rs : List (Host × Request)} {call : Host × Store.Change}
    (h : call ∈ configurations rs) : call.2.global? = none := by
  obtain ⟨⟨host, r⟩, -, hr⟩ := List.mem_filterMap.1 h
  obtain ⟨payload, -, rfl⟩ := Option.map_eq_some_iff.1 hr
  rfl

/-- Changes of the configuration bring no global settings, so those of the opening are the last. -/
theorem lastGlobal_openings (host : Host) (setup : Setup) (opening : Host)
    (editor : EditorOptions) (rs : List (Host × Request)) :
    Store.lastGlobal .empty (openings host setup opening editor ++ configurations rs) =
      setup.global.merge editor.global :=
  Store.lastGlobal_append_of_none _ fun _ => global?_of_mem_configurations

/-- The last call for the store is the one with the entries that count. -/
theorem exists_getLast?_openings (host : Host) (setup : Setup) (opening : Host)
    (editor : EditorOptions) (rs : List (Host × Request)) :
    ∃ c, (openings host setup opening editor ++ configurations rs).getLast? =
        some ((lastEntries opening editor rs).1, c) ∧
      c.entries = (lastEntries opening editor rs).2 := by
  rw [List.getLast?_append, lastEntries]
  cases (configurations rs).getLast? with
  | none => exact ⟨_, rfl, rfl⟩
  | some call => exact ⟨call.2, rfl, rfl⟩

/-- At every moment of a session its store is built from the global settings of its opening and
from the entries that count. -/
theorem snapshot_run (host : Host) (setup : Setup) (opening : Host) (options : Option Json)
    (rs : List (Host × Request)) :
    let editor := (EditorOptions.ofPayload options).value
    let said := lastEntries opening editor rs
    (run host setup opening options rs).value.store.snapshot =
      (Snapshot.build said.1 setup.runtime (setup.global.merge editor.global) said.2).value := by
  intro editor said
  obtain ⟨c, hlast, hentries⟩ := exists_getLast?_openings host setup opening editor rs
  rw [store_run, Store.snapshot_changes _ hlast, hentries,
    ← lastGlobal_openings host setup opening editor rs]
  rfl

/-! ### Layers -/

/-- **The settings come in layers, at every moment of a session.**  Each field of each record is
that of the last entry for its root, else that of the options of the editor, else that of the
configuration file, else the built-in default.  The global settings are those of the editor laid
over those of the file, and no request alters them.  Options that are absent or malformed say
nothing.  An array of entries may stand alone or under `settings`; a payload without an array, or
with an array in which an entry is malformed, is the same as an empty array.  Laying layers over
each other is associative, and a layer in which nothing is set is neutral. -/
theorem settings_layered (host : Host) (setup : Setup) (opening : Host) (options : Option Json)
    (rs : List (Host × Request)) :
    let editor := (EditorOptions.ofPayload options).value
    let file := setup.global
    let said := lastEntries opening editor rs
    let now := (run host setup opening options rs).value.store.snapshot
    (now.workspaces = (Snapshot.rootsFor said.1 said.2).map fun root =>
      (root, .layered setup.runtime (WorkspaceEntry.last? said.1 root said.2) editor.global file
        root)) ∧
    (now.global = file.merge editor.global ∧
      now.global.stdlibPaths =
        (if editor.global.stdlibPaths ≠ [] then editor.global.stdlibPaths else file.stdlibPaths) ∧
      now.global.exclude =
        if editor.global.exclude ≠ [] then editor.global.exclude else file.exclude) ∧
    ((∀ j o, options = some j → EditorOptions.schema.decode j = .ok o → editor = o) ∧
      ((∀ j, options = some j → ∃ e, EditorOptions.schema.decode j = .error e) →
        editor = .empty)) ∧
    (∀ (host : Host) (s : Session) (items : List Json),
      (∀ members, Json.lookup "settings" members = some (.array items) →
        s.configure host (.object members) = s.configure host (.array items)) ∧
      ∀ entries,
        List.Forall₂ (fun j e => WorkspaceEntry.schema.decode j = .ok e) items entries →
        (s.configure host (.array items)).value.store =
          (s.store.replace host (some entries)).value) ∧
    (∀ (host : Host) (s : Session) (payload : Json),
      (∀ items, WorkspaceEntry.arrayIn? payload = some items →
        ∃ j ∈ items, ∃ e, WorkspaceEntry.schema.decode j = .error e) →
      (s.configure host payload).value.store = (s.configure host (.array [])).value.store) ∧
    (∀ a b c : GlobalSettings, (a.merge b).merge c = a.merge (b.merge c)) ∧
    ∀ g, GlobalSettings.empty.merge g = g ∧ g.merge .empty = g := by
  intro editor file said now
  have hnow : now = (Snapshot.build said.1 setup.runtime (file.merge editor.global) said.2).value :=
    snapshot_run host setup opening options rs
  have hglobal : now.global = file.merge editor.global := by rw [hnow, Snapshot.global_build]
  refine ⟨?_, ⟨hglobal, ?_, ?_⟩, ⟨?_, ?_⟩, fun host s items => ⟨?_, ?_⟩, ?_,
    GlobalSettings.merge_assoc, fun g => ⟨g.empty_merge, g.merge_empty⟩⟩
  · rw [hnow, Snapshot.workspaces_build]
    exact List.map_congr_left fun root _ => by rw [Snapshot.recordFor_merge]
  · rw [hglobal, GlobalSettings.merge, ite_not]
  · rw [hglobal, GlobalSettings.merge, ite_not]
  · rintro j o rfl h
    exact EditorOptions.value_ofPayload_of_decode h
  · exact EditorOptions.value_ofPayload_of_unread
  · intro members h
    rw [configure, configure, WorkspaceEntry.ofChange?_object h]
  · intro entries h
    rw [store_configure, WorkspaceEntry.value_ofChange?_of_decode h]
  · intro host s payload h
    rw [store_configure, store_configure, WorkspaceEntry.value_ofChange?_of_unread h,
      WorkspaceEntry.value_ofChange?_of_decode .nil]
    rfl

/-- A setup with something in its configuration file. -/
def layeredSetup : Setup :=
  { copyingSetup with
    global := { GlobalSettings.empty with path := some ["tool"], args := some ["--file"] } }

/-- A change that sets the arguments for one workspace. -/
def argsChange : Json :=
  .object [("settings", .array [.object [("workspace", .text "/a"),
    ("args", Json.texts ["--entry"])]])]

theorem settings_layered_malformed :
    let now := (run bareHost layeredSetup bareHost (some (.text "options"))
      [(bareHost, .configure argsChange)]).value.store.snapshot
    now.global = layeredSetup.global ∧
      now.records.map (fun r => (r.toolPath, r.extraArgs)) = [(["tool"], ["--entry"])] := by
  obtain ⟨hrecords, ⟨hglobal, -⟩, ⟨-, hmalformed⟩, -⟩ := settings_layered bareHost layeredSetup
    bareHost (some (.text "options")) [(bareHost, .configure argsChange)]
  have hempty : (EditorOptions.ofPayload (some (.text "options"))).value = .empty :=
    hmalformed fun j hj => by
      obtain rfl := Option.some.inj hj
      exact ⟨_, rfl⟩
  refine ⟨?_, ?_⟩
  · rw [hglobal, hempty]
    exact GlobalSettings.merge_empty _
  · rw [Snapshot.records, hrecords]
    decide +kernel

end Session

end ToolRelay
