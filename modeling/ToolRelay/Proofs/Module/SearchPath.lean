import ToolRelay.Module.SearchPath
import ToolRelay.Proofs.Path.Below
import ToolRelay.Proofs.Text.Replace

/-!
# What stands on the module search path

The variable of the environment lists directories, with colons between them; empty pieces are no
directories (`Environment.Lists`).  The bundled directory joins them at one end, if it exists and
nothing on the path has its components already (`SearchPath.Joins`).

* `Environment.lists_pathList` : what a text lists.
* `SearchPath.addBundled_of_joins` and `SearchPath.addBundled_of_not_joins` : where the bundled
  directory comes to stand.
* `SearchPath.addBundled_again` : it comes to stand there once, in whatever way it is written.
* `SearchPath.ofEnvironment_complete` : nothing is lost and nothing is doubled on the way.
-/

namespace ToolRelay

/-! ### Lists of directories -/

namespace Environment

/-- The paths that a text lists: its pieces between colons, without the empty ones. -/
structure Lists (text : String) (paths : List Path) : Prop where
  /-- The text can be cut at the colons. -/
  exists_cuts : ∃ pieces, Text.Cuts [':'] text.toList pieces
  /-- The pieces that are not empty are the paths. -/
  eq_map : ∀ pieces, Text.Cuts [':'] text.toList pieces →
    paths = (pieces.filter (· ≠ [])).map (Path.ofString ∘ String.ofList)

variable {text : String} {names : List String}

theorem pathList_of_cuts {pieces : List (List Char)} (h : Text.Cuts [':'] text.toList pieces) :
    pathList text = (pieces.filter (· ≠ [])).map (Path.ofString ∘ String.ofList) := by
  rw [pathList, h.eq_intercalate]
  by_cases hne : pieces = []
  · subst hne
    rfl
  · have hpieces : ∀ piece ∈ pieces, ∀ c ∈ piece, (c == ':') = false := by
      intro piece hp c hc
      have hno := h.no_mark piece hp
      rw [List.singleton_infix_iff] at hno
      exact beq_false_of_ne fun heq => hno (heq ▸ hc)
    rw [Text.splitOnAll_intercalate (by decide) hne hpieces]

theorem lists_pathList (text : String) : Lists text (pathList text) where
  exists_cuts :=
    let ⟨pieces, _, h⟩ := Text.exists_cuts (List.cons_ne_nil ':' []) text.toList
    ⟨pieces, h⟩
  eq_map _ h := pathList_of_cuts h

/-- Names that are not empty and hold no colon are listed by the text that joins them. -/
theorem Lists.eq_map_ofString {paths : List Path} (h : Lists (":".intercalate names) paths)
    (hnames : ∀ name ∈ names, name ≠ "" ∧ ':' ∉ name.toList) :
    paths = names.map Path.ofString := by
  have hcuts : Text.Cuts [':'] (":".intercalate names).toList (names.map String.toList) := by
    refine ⟨String.toList_intercalate, List.forall_mem_map.2 fun name hn => ?_⟩
    rw [List.singleton_infix_iff]
    exact (hnames name hn).2
  have hfull : ∀ piece ∈ names.map String.toList, decide (piece ≠ []) = true := by
    refine List.forall_mem_map.2 fun name hn => ?_
    simpa using (hnames name hn).1
  rw [h.eq_map _ hcuts, List.filter_eq_self.2 hfull, List.map_map]
  refine List.map_congr_left fun name _ => ?_
  simp

/-- What the variables say about the search path. -/
theorem modulePath_ofVariables (look : String → Option String) :
    (ofVariables look).value.modulePath = ((look pathKey).map pathList).getD [] := rfl

end Environment

namespace SearchPath

variable {host : Host} {dir other : Path} {strategy strategy' : ImportStrategy}
  {entries : List Path}

/-! ### The bundled directory -/

/-- A directory is on the path, in whatever way it is written. -/
def Has (entries : List Path) (dir : Path) : Prop :=
  ∃ entry ∈ entries, entry.components = dir.components

/-- A directory exists and is not on the path. -/
def Joins (host : Host) (entries : List Path) (dir : Path) : Prop :=
  host.isDir dir = true ∧ ¬ Has entries dir

theorem Has.congr (h : Has entries dir) (hsame : other.components = dir.components) :
    Has entries other := by
  obtain ⟨entry, hm, he⟩ := h
  exact ⟨entry, hm, he.trans hsame.symm⟩

theorem any_agrees_iff : entries.any (·.agrees dir) = true ↔ Has entries dir := by
  simp [Has, Path.agrees]

/-- A directory that joins the path comes to stand at the one end or the other. -/
theorem addBundled_of_joins (h : Joins host entries dir) :
    addBundled host dir strategy entries =
      match strategy with
      | .bundled => dir :: entries
      | .fromEnvironment => entries ++ [dir] := by
  have hnot : ¬ (entries.any (·.agrees dir) || !host.isDir dir) = true := by
    rw [Bool.or_eq_true, any_agrees_iff, h.1]
    exact fun hor => hor.elim h.2 nofun
  unfold addBundled
  exact if_neg hnot

theorem addBundled_of_not_joins (h : ¬ Joins host entries dir) :
    addBundled host dir strategy entries = entries := by
  have hkept : (entries.any (·.agrees dir) || !host.isDir dir) = true := by
    rw [Bool.or_eq_true, any_agrees_iff]
    by_cases hdir : host.isDir dir = true
    · exact .inl (by_contra fun hnot => h ⟨hdir, hnot⟩)
    · exact .inr (by simpa using hdir)
  unfold addBundled
  rw [if_pos hkept]

theorem addBundled_of_has (h : Has entries dir) : addBundled host dir strategy entries = entries :=
  addBundled_of_not_joins fun hj => hj.2 h

/-- The path changes exactly if the directory joins it. -/
theorem addBundled_ne_iff :
    addBundled host dir strategy entries ≠ entries ↔ Joins host entries dir := by
  constructor
  · intro h
    by_contra hnot
    exact h (addBundled_of_not_joins hnot)
  · intro h heq
    have hlength := congrArg List.length heq
    rw [addBundled_of_joins h] at hlength
    cases strategy <;> simp at hlength

/-- Nothing is lost, and the order stays. -/
theorem sublist_addBundled : entries.Sublist (addBundled host dir strategy entries) := by
  by_cases h : Joins host entries dir
  · rw [addBundled_of_joins h]
    cases strategy with
    | bundled => exact List.sublist_cons_self dir entries
    | fromEnvironment => exact List.sublist_append_left entries [dir]
  · rw [addBundled_of_not_joins h]

/-- A directory that exists is on the path afterwards. -/
theorem has_addBundled (h : host.isDir dir = true) :
    Has (addBundled host dir strategy entries) dir := by
  by_cases hj : Joins host entries dir
  · rw [addBundled_of_joins hj]
    cases strategy <;> exact ⟨dir, by simp, rfl⟩
  · rw [addBundled_of_not_joins hj]
    by_contra hnot
    exact hj ⟨h, hnot⟩

/-- Nothing is doubled: no two entries have the same components if none had before. -/
theorem pairwise_addBundled (h : entries.Pairwise fun a b => a.components ≠ b.components) :
    (addBundled host dir strategy entries).Pairwise fun a b => a.components ≠ b.components := by
  by_cases hj : Joins host entries dir
  · have hne : ∀ entry ∈ entries, entry.components ≠ dir.components := fun entry hm he =>
      hj.2 ⟨entry, hm, he⟩
    rw [addBundled_of_joins hj]
    cases strategy with
    | bundled => exact List.pairwise_cons.2 ⟨fun entry hm => (hne entry hm).symm, h⟩
    | fromEnvironment => simpa [List.pairwise_append, h] using hne
  · rw [addBundled_of_not_joins hj]
    exact h

/-- **A directory that has been added is not added again**, wherever it would come to stand and
however it is written. -/
theorem addBundled_again (hsame : other.components = dir.components)
    (hdir : host.isDir other = true → host.isDir dir = true) :
    addBundled host other strategy' (addBundled host dir strategy entries) =
      addBundled host dir strategy entries := by
  by_cases h : host.isDir dir = true
  · exact addBundled_of_has ((has_addBundled h).congr hsame)
  · exact addBundled_of_not_joins fun hj => h (hdir hj.1)

/-! ### The whole search path -/

/-- What becomes of the entries of a search path when a directory is added to them. -/
structure Extends (host : Host) (strategy : ImportStrategy) (dir : Path)
    (entries path : List Path) : Prop where
  /-- No entry is lost, and their order stays. -/
  sublist : entries.Sublist path
  /-- The directory is added exactly if it exists and is not there. -/
  ne_iff : path ≠ entries ↔ Joins host entries dir
  /-- It becomes the first entry, or the last one. -/
  eq_of_joins : Joins host entries dir →
    path = match strategy with
      | .bundled => dir :: entries
      | .fromEnvironment => entries ++ [dir]
  /-- No two entries have the same components if none had before. -/
  pairwise : (entries.Pairwise fun a b => a.components ≠ b.components) →
    path.Pairwise fun a b => a.components ≠ b.components
  /-- Adding the directory again, in whatever way it is written, changes nothing. -/
  again : ∀ other strategy', other.components = dir.components →
    (host.isDir other = true → host.isDir dir = true) →
    addBundled host other strategy' path = path

theorem extends_addBundled (host : Host) (strategy : ImportStrategy) (dir : Path)
    (entries : List Path) :
    Extends host strategy dir entries (addBundled host dir strategy entries) where
  sublist := sublist_addBundled
  ne_iff := addBundled_ne_iff
  eq_of_joins := addBundled_of_joins
  pairwise := pairwise_addBundled
  again _ _ := addBundled_again

/-- **The search path is complete and holds nothing twice.**  What the variable of the environment
lists is exactly its pieces between colons that are not empty, in order, so that names without
colons are read back from the text that joins them; without the variable nothing is listed.  All of
this is on the search path, in the same order.  The bundled directory is added to it exactly if it
exists and no entry has its components, in front of everything or behind everything as the strategy
says; adding it once more, with either strategy, changes nothing.  That holds for every way of
writing the directory that has the same components, and a separator at the end of it, or anything
behind a separator that says nothing, does not change them. -/
theorem ofEnvironment_complete (host : Host) (look : String → Option String) (e : Environment)
    (bundled : Option Path) :
    let listed := (Environment.ofVariables look).value.modulePath
    let path := ofEnvironment host e bundled
    (look Environment.pathKey = none → listed = []) ∧
    (∀ text, look Environment.pathKey = some text → Environment.Lists text listed) ∧
    (∀ names : List String, (∀ name ∈ names, name ≠ "" ∧ ':' ∉ name.toList) →
      look Environment.pathKey = some (":".intercalate names) →
      listed = names.map Path.ofString) ∧
    e.modulePath.Sublist path ∧
    (bundled = none → path = e.modulePath) ∧
    ∀ dir, bundled = some dir →
      Extends host e.importStrategy dir e.modulePath path ∧
      (∀ strategy, addBundled host dir strategy path = path) ∧
      (dir.bytes ≠ [] → ∀ more, Path.body more = [] →
        Path.components ⟨dir.bytes ++ Path.separator :: more⟩ = dir.components) := by
  intro listed path
  have hlists : ∀ text, look Environment.pathKey = some text → Environment.Lists text listed := by
    intro text htext
    have hlisted : listed = Environment.pathList text := by
      simp only [listed, Environment.modulePath_ofVariables, htext, Option.map_some,
        Option.getD_some]
    rw [hlisted]
    exact Environment.lists_pathList text
  refine ⟨fun hnone => ?_, hlists, fun names hnames htext => ?_, ?_, ?_, ?_⟩
  · simp only [listed, Environment.modulePath_ofVariables, hnone, Option.map_none,
      Option.getD_none]
  · exact (hlists _ htext).eq_map_ofString hnames
  · cases bundled with
    | none => exact List.Sublist.refl _
    | some dir => exact sublist_addBundled
  · rintro rfl
    rfl
  · rintro dir rfl
    have hextends := extends_addBundled host e.importStrategy dir e.modulePath
    exact ⟨hextends, fun strategy => hextends.again dir strategy rfl id,
      fun hne more => Path.components_append_idle hne⟩

example : (Path.ofString "/a").agrees (Path.ofString "/a/") = true ∧
    (Path.ofString "/a").agrees (Path.ofString "/a/.") = true := by
  decide +kernel

end SearchPath

end ToolRelay
