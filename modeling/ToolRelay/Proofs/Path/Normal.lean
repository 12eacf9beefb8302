import ToolRelay.Host.Basic
import ToolRelay.Path.Normal
import ToolRelay.Proofs.Path.Components
import Mathlib.Data.List.Basic
import Mathlib.Data.List.Induction

/-!
# The normal form of a path

Components are resolved on a stack, last first: a beginning that nothing takes back and names on
top of it (`Stack`).  So the normal form of a path is a beginning followed by names.

* `Path.normalize_normalize` : normalizing twice changes nothing more.
* `Path.exists_rooted` : the normal form of an absolute path is the root and names.
* `Path.same_iff` : normal forms that are text are compared exactly.
* `Path.ancestors_rooted_concat` : the directories above a path in normal form.
-/

namespace ToolRelay

namespace Path

/-- What a resolved path begins with: the root of an absolute path, or the parent directories that
a relative path leads up to. -/
inductive Beginning : Bool → List Component → Prop where
  /-- The root. -/
  | root : Beginning true [.root]
  /-- Parent directories. -/
  | ups (n : Nat) : Beginning false (List.replicate n .up)

/-- Resolved components, last first. -/
inductive Stack (absolute : Bool) : List Component → Prop where
  /-- A beginning. -/
  | beginning {done : List Component} (h : Beginning absolute done) : Stack absolute done
  /-- A name on top of a stack. -/
  | name {done : List Component} {bs : Bytes} (h : Stack absolute done) (hbs : IsName bs) :
      Stack absolute (.name bs :: done)

variable {absolute : Bool} {done cs : List Component}

/-! ### Resolving components -/

theorem resolveStep_ups (n : Nat) :
    Path.resolveStep false (List.replicate n .up) .up = List.replicate (n + 1) .up := by
  cases n <;> rfl

/-- One component more keeps a stack. -/
theorem Stack.resolveStep (h : Stack absolute done) {c : Component} (hc : IsInner c) :
    Stack absolute (resolveStep absolute done c) := by
  cases hc with
  | name hbs => exact h.name hbs
  | up =>
    cases h with
    | name h => exact h
    | beginning hb =>
      cases hb with
      -- nothing is above the root, and only the parent above parents
      | root => exact .beginning .root
      | ups n =>
        rw [resolveStep_ups]
        exact .beginning (.ups (n + 1))

theorem Stack.foldl (h : Stack absolute done) (hcs : ∀ c ∈ cs, IsInner c) :
    Stack absolute (cs.foldl (Path.resolveStep absolute) done) := by
  induction cs generalizing done with
  | nil => exact h
  | cons c cs ih =>
    obtain ⟨hc, hcs⟩ := List.forall_mem_cons.1 hcs
    exact ih (h.resolveStep hc) hcs

/-- What resolving gives. -/
theorem stack_resolve (h : Layout absolute cs) :
    Stack absolute (resolve absolute cs).reverse := by
  have hbottom : Stack false [] := .beginning (.ups 0)
  rw [resolve, List.reverse_reverse]
  cases h with
  | rooted h => exact (Stack.beginning .root).foldl h
  -- the current directory at the front leaves the stack empty
  | @here cs h =>
    have hstack : Stack false (cs.foldl (Path.resolveStep false) []) := hbottom.foldl h
    exact hstack
  | plain h => exact hbottom.foldl h

/-- Resolved components are resolved to themselves. -/
theorem Stack.foldl_reverse (h : Stack absolute done) :
    done.reverse.foldl (Path.resolveStep absolute) [] = done := by
  induction h with
  | name _ _ ih => rw [List.reverse_cons, List.foldl_append, ih]; rfl
  | beginning h =>
    cases h with
    | root => rfl
    | ups n =>
      rw [List.reverse_replicate]
      induction n with
      | zero => rfl
      | succ n ih =>
        rw [List.replicate_succ', List.foldl_append, ih, ← List.replicate_succ']
        exact resolveStep_ups n

theorem Stack.layout (h : Stack absolute done) : Layout absolute done.reverse := by
  induction h with
  | beginning h =>
    cases h with
    | root => exact .rooted nofun
    | ups n =>
      refine .plain fun c hc => ?_
      rw [List.eq_of_mem_replicate (List.mem_reverse.1 hc)]
      exact .up
  | name _ hbs ih =>
    rw [List.reverse_cons]
    exact ih.concat (.name hbs)

/-! ### What is written by resolved components -/

theorem Stack.components_written (h : Stack absolute cs.reverse) :
    (ofComponents cs).components = cs := by
  have hlayout := h.layout
  rw [List.reverse_reverse] at hlayout
  exact components_ofComponents hlayout

theorem Stack.isAbsolute_written (h : Stack absolute cs.reverse) :
    (ofComponents cs).isAbsolute = absolute := by
  have hlayout := h.layout
  rw [List.reverse_reverse] at hlayout
  exact isAbsolute_ofComponents hlayout

theorem Stack.normalize_written (h : Stack absolute cs.reverse) :
    (ofComponents cs).normalize = ofComponents cs := by
  have hresolved := h.foldl_reverse
  rw [List.reverse_reverse] at hresolved
  rw [normalize, h.components_written, h.isAbsolute_written, resolve, hresolved,
    List.reverse_reverse]

/-! ### The normal form -/

/-- What normalizing gives is read back as the resolved components. -/
theorem components_normalize (p : Path) :
    p.normalize.components = resolve p.isAbsolute p.components :=
  (stack_resolve (layout_components p)).components_written

@[simp]
theorem isAbsolute_normalize (p : Path) : p.normalize.isAbsolute = p.isAbsolute :=
  (stack_resolve (layout_components p)).isAbsolute_written

/-- **Normalizing twice changes nothing more**, octet for octet. -/
theorem normalize_normalize (p : Path) : p.normalize.normalize = p.normalize :=
  (stack_resolve (layout_components p)).normalize_written

theorem ofComponents_normalize (p : Path) :
    ofComponents p.normalize.components = p.normalize := by
  rw [components_normalize, normalize]

/-- Paths in normal form that have the same components are the same. -/
theorem agrees_iff_of_normalize {p q : Path} (hp : p.normalize = p) (hq : q.normalize = q) :
    p.agrees q = true ↔ p = q := by
  rw [agrees, beq_iff_eq]
  refine ⟨fun h => ?_, congrArg components⟩
  rw [← hp, ← hq, ← ofComponents_normalize p, ← ofComponents_normalize q, hp, hq, h]

theorem mem_resolveStep {c d : Component} (h : c ∈ resolveStep absolute done d) :
    c ∈ done ∨ c = d := by
  unfold resolveStep at h
  split at h
  · exact (List.mem_cons.1 h).symm
  · exact .inl h
  · split at h
    · exact .inl (List.mem_cons_of_mem _ h)
    · split_ifs at h
      · exact .inl h
      · exact (List.mem_cons.1 h).symm
  · exact (List.mem_cons.1 h).symm

theorem mem_foldl_resolveStep {c : Component}
    (h : c ∈ cs.foldl (resolveStep absolute) done) : c ∈ done ∨ c ∈ cs := by
  induction cs generalizing done with
  | nil => exact .inl h
  | cons d cs ih =>
    obtain h | h := ih h
    · obtain h | rfl := mem_resolveStep h
      · exact .inl h
      · exact .inr (List.mem_cons_self ..)
    · exact .inr (List.mem_cons_of_mem _ h)

/-- The normal form of a path that is text is text. -/
theorem wellFormed_normalize {p : Path} (h : Utf8.WellFormed p.bytes) :
    Utf8.WellFormed p.normalize.bytes := by
  refine wellFormed_ofComponents fun c hc => wellFormed_of_mem_components h ?_
  rw [resolve, List.mem_reverse] at hc
  simpa using mem_foldl_resolveStep hc

/-- **Normal forms that are text are compared exactly.** -/
theorem same_iff {p q : Path} (hp : Utf8.WellFormed p.normalize.bytes)
    (hq : Utf8.WellFormed q.normalize.bytes) :
    p.same q = true ↔ p.normalize = q.normalize := by
  rw [same, beq_iff_eq]
  constructor
  · intro h
    exact congrArg Path.mk (hp.eq_of_lossy hq h)
  · intro h
    rw [comparable, comparable, h]

/-! ### Absolute paths in normal form -/

/-- The path with the given names after the root. -/
def rooted (names : List Bytes) : Path := ofComponents (.root :: names.map .name)

variable {names : List Bytes}

/-- Names on top of a beginning are resolved. -/
theorem Beginning.stack {first : List Component} (h : Beginning absolute first)
    (hnames : ∀ bs ∈ names, IsName bs) :
    Stack absolute (first.reverse ++ names.map Component.name).reverse := by
  induction names using List.reverseRecOn with
  | nil => simpa using Stack.beginning h
  | append_singleton names bs ih =>
    obtain ⟨hinit, hbs⟩ := List.forall_mem_append.1 hnames
    rw [List.map_append, ← List.append_assoc, List.reverse_append]
    exact (ih hinit).name (hbs bs (List.mem_singleton_self bs))

/-- Resolved components are names on top of a beginning. -/
theorem Stack.exists_beginning (h : Stack absolute done) :
    ∃ (first : List Component) (names : List Bytes), Beginning absolute first ∧
      (∀ bs ∈ names, IsName bs) ∧ done.reverse = first.reverse ++ names.map Component.name := by
  induction h with
  | beginning h => exact ⟨_, [], h, nofun, by simp⟩
  | @name _ bs _ hbs ih =>
    obtain ⟨first, names, hfirst, hnames, heq⟩ := ih
    refine ⟨first, names ++ [bs], hfirst, ?_, by rw [List.reverse_cons, heq]; simp⟩
    simpa [or_imp, forall_and] using ⟨hnames, hbs⟩

theorem stack_names (h : ∀ bs ∈ names, IsName bs) :
    Stack true (.root :: names.map Component.name).reverse :=
  Beginning.root.stack h

theorem components_rooted (h : ∀ bs ∈ names, IsName bs) :
    (rooted names).components = .root :: names.map .name :=
  (stack_names h).components_written

theorem isAbsolute_rooted (names : List Bytes) : (rooted names).isAbsolute = true := rfl

theorem normalize_rooted (h : ∀ bs ∈ names, IsName bs) :
    (rooted names).normalize = rooted names :=
  (stack_names h).normalize_written

theorem exists_rooted {p : Path} (h : p.isAbsolute = true) :
    ∃ names, (∀ bs ∈ names, IsName bs) ∧ p.normalize = rooted names := by
  have hs := stack_resolve (layout_components p)
  rw [h] at hs
  obtain ⟨first, names, hfirst, hnames, heq⟩ := hs.exists_beginning
  rw [List.reverse_reverse] at heq
  cases hfirst
  exact ⟨names, hnames, by rw [normalize, h, heq]; rfl⟩

/-! ### Above a path -/

theorem parent?_rooted_concat {bs : Bytes} (h : ∀ b ∈ names ++ [bs], IsName b) :
    (rooted (names ++ [bs])).parent? = some (rooted names) := by
  have hlast : (Component.root :: (names ++ [bs]).map .name).getLast? = some (.name bs) := by
    rw [List.map_append, ← List.cons_append]
    exact List.getLast?_concat
  have hinit : (Component.root :: (names ++ [bs]).map .name).dropLast =
      .root :: names.map .name := by
    rw [List.map_append, ← List.cons_append]
    exact List.dropLast_concat
  rw [parent?, components_rooted h, hlast, hinit]
  rfl

theorem ancestors_rooted_concat {bs : Bytes} (h : ∀ b ∈ names ++ [bs], IsName b) :
    (rooted (names ++ [bs])).ancestors = rooted (names ++ [bs]) :: (rooted names).ancestors := by
  have hn : ∀ b ∈ names, IsName b := fun b hb => h b (List.mem_append_left _ hb)
  rw [ancestors, ancestors, components_rooted h, components_rooted hn, List.map_append,
    ← List.cons_append, List.length_append, List.map_singleton, List.length_singleton,
    ancestors.go, parent?_rooted_concat h]

/-! ### Absolute paths -/

theorem isAbsolute_join {dir : Path} (h : dir.isAbsolute = true) (p : Path) :
    (dir.join p).isAbsolute = true := by
  rw [join]
  split_ifs with hp
  · exact hp
  · obtain ⟨bs, hbs⟩ := List.head?_eq_some_iff.1 (eq_of_beq h)
    rw [isAbsolute, endSeparated, hbs]
    split_ifs <;> rfl

theorem isAbsolute_absoluteFrom {dir : Path} (h : dir.isAbsolute = true) (p : Path) :
    (absoluteFrom dir p).isAbsolute = true := by
  rw [absoluteFrom]
  split_ifs with hp
  · rw [isAbsolute_normalize, hp]
  · rw [isAbsolute_normalize, isAbsolute_join h]

theorem wellFormed_join {dir p : Path} (hd : Utf8.WellFormed dir.bytes)
    (hp : Utf8.WellFormed p.bytes) : Utf8.WellFormed (dir.join p).bytes := by
  rw [join]
  split_ifs
  · exact hp
  · refine .append ?_ hp
    rw [endSeparated]
    split_ifs
    · exact hd
    · exact hd.append (Utf8.wellFormed_singleton (by decide))

/-- An absolute path in normal form, whose names are text. -/
def IsPlace (p : Path) : Prop :=
  ∃ names, (∀ bs ∈ names, IsName bs ∧ Utf8.WellFormed bs) ∧ p = rooted names

theorem isPlace_normalize {p : Path} (h : p.isAbsolute = true) (ht : Utf8.WellFormed p.bytes) :
    IsPlace p.normalize := by
  obtain ⟨names, hn, hp⟩ := exists_rooted h
  refine ⟨names, fun bs hb => ⟨hn bs hb, ?_⟩, hp⟩
  -- the names come from the path, so they are text with it
  have hc : Component.name bs ∈ p.normalize.components := by
    rw [hp, components_rooted hn]
    exact List.mem_cons_of_mem _ (List.mem_map_of_mem hb)
  exact wellFormed_of_mem_components (wellFormed_normalize ht) hc

theorem isPlace_absoluteFrom {dir p : Path} (h : dir.isAbsolute = true)
    (hd : Utf8.WellFormed dir.bytes) (hp : Utf8.WellFormed p.bytes) :
    IsPlace (absoluteFrom dir p) := by
  rw [absoluteFrom]
  split_ifs with ha
  · exact isPlace_normalize ha hp
  · exact isPlace_normalize (isAbsolute_join h p) (wellFormed_join hd hp)

theorem IsPlace.normalize_eq {p : Path} (h : IsPlace p) : p.normalize = p := by
  obtain ⟨names, hn, rfl⟩ := h
  exact normalize_rooted fun bs hb => (hn bs hb).1

theorem IsPlace.wellFormed {p : Path} (h : IsPlace p) : Utf8.WellFormed p.bytes := by
  obtain ⟨names, hn, rfl⟩ := h
  refine wellFormed_ofComponents fun c hc => ?_
  obtain rfl | hc := List.mem_cons.1 hc
  · exact Utf8.wellFormed_singleton (by decide)
  · obtain ⟨bs, hb, rfl⟩ := List.mem_map.1 hc
    exact (hn bs hb).2

/-- Both ways of comparing places are exact. -/
theorem IsPlace.agrees_iff {p q : Path} (hp : IsPlace p) (hq : IsPlace q) :
    p.agrees q = true ↔ p = q :=
  agrees_iff_of_normalize hp.normalize_eq hq.normalize_eq

theorem IsPlace.same_iff {p q : Path} (hp : IsPlace p) (hq : IsPlace q) :
    p.same q = true ↔ p = q := by
  have h := @Path.same_iff p q (by rw [hp.normalize_eq]; exact hp.wellFormed)
    (by rw [hq.normalize_eq]; exact hq.wellFormed)
  rw [h, hp.normalize_eq, hq.normalize_eq]

/-- The directory a place lies in is one; only the root has none. -/
theorem IsPlace.parent {p : Path} (h : IsPlace p) : IsPlace (p.parent?.getD p) := by
  obtain ⟨names, hn, rfl⟩ := h
  rcases List.eq_nil_or_concat names with rfl | ⟨init, bs, rfl⟩
  · exact ⟨[], nofun, rfl⟩
  · rw [List.concat_eq_append] at hn ⊢
    rw [parent?_rooted_concat fun b hb => (hn b hb).1]
    exact ⟨init, fun b hb => hn b (List.mem_append_left _ hb), rfl⟩

theorem IsPlace.eq_of_components {p q : Path} (hp : IsPlace p) (hq : IsPlace q)
    (h : p.components = q.components) : p = q :=
  (hp.agrees_iff hq).1 (by rw [agrees, h, beq_self_eq_true])

theorem IsPlace.components_ne_nil {p : Path} (h : IsPlace p) : p.components ≠ [] := by
  obtain ⟨names, hn, rfl⟩ := h
  rw [components_rooted fun bs hb => (hn bs hb).1]
  exact List.cons_ne_nil _ _

/-- Every place is the root or lies in a place. -/
theorem IsPlace.induction {motive : Path → Prop} (root : motive (rooted []))
    (below : ∀ {p q : Path} {c : Component}, IsPlace p → IsPlace q →
      q.components = p.components ++ [c] → q.ancestors = q :: p.ancestors → motive p → motive q)
    {p : Path} (h : IsPlace p) : motive p := by
  obtain ⟨names, hn, rfl⟩ := h
  induction names using List.reverseRecOn with
  | nil => exact root
  | append_singleton names bs ih =>
    have hinit : ∀ b ∈ names, IsName b ∧ Utf8.WellFormed b := fun b hb =>
      hn b (List.mem_append_left _ hb)
    have hall : ∀ b ∈ names ++ [bs], IsName b := fun b hb => (hn b hb).1
    refine below (c := .name bs) ⟨names, hinit, rfl⟩ ⟨_, hn, rfl⟩ ?_ (ancestors_rooted_concat hall)
      (ih hinit)
    rw [components_rooted hall, components_rooted fun b hb => (hinit b hb).1, List.map_append]
    rfl

/-- The directories above a place are places. -/
theorem IsPlace.of_mem_ancestors {p : Path} (h : IsPlace p) : ∀ q ∈ p.ancestors, IsPlace q := by
  refine IsPlace.induction (motive := fun p => ∀ q ∈ p.ancestors, IsPlace q) ?_ ?_ h
  · exact List.forall_mem_singleton.2 ⟨[], nofun, rfl⟩
  · intro p q _ _ hq _ ha ih
    rw [ha]
    exact List.forall_mem_cons.2 ⟨hq, ih⟩

end Path

namespace Host

theorem normalize_absolutize (host : Host) (p : Path) :
    (host.absolutize p).value.normalize = (host.absolutize p).value := by
  rw [absolutize]
  split_ifs <;> exact Path.normalize_normalize _

/-- In a current directory that can be read, relative paths are seen from there. -/
theorem absolutize_eq {host : Host} {dir : Path} (h : host.currentDir = .ok dir) (p : Path) :
    host.absolutize p = pure (Path.absoluteFrom dir p) := by
  rw [absolutize, Path.absoluteFrom, workingDir, h]
  split_ifs <;> rfl

end Host

end ToolRelay
