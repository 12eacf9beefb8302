import ToolRelay.Proofs.Path.Respelling
import ToolRelay.Proofs.Path.Shown

/-!
# The normal form is canonical

In its normal form a path is written as names behind the root, or behind parent directories, with
one separator between neighbours and none at the end (`Path.Canonical`).  Such paths are the normal
forms, and no others are.

The normal form can be had by editing a written form in place: a name is put behind what is written
so far, and `..` takes the last name off again (`Path.edit`).  What is written is canonical after
every component, so it is read back as the components resolved so far.

* `Path.canonical_iff` : canonical paths are those written by resolved components;
* `Path.normalize_eq_foldl_edit` : editing in place gives the normal form;
* `Path.normalize_join` : a path may be normalized before another one is put behind it;
* `Path.normalize_canonical` : **the normal form is canonical, and it is what all of this says.**
-/

namespace ToolRelay

namespace Path

variable {p q : Path} {absolute : Bool} {done cs : List Component} {c : Component}
  {names ss : List Bytes} {bs : Bytes}

/-- A path in canonical form: names behind the root, or names behind parent directories, with one
separator between neighbours. -/
inductive Canonical : Path → Prop where
  /-- An absolute path. -/
  | rooted {names : List Bytes} (h : ∀ bs ∈ names, IsName bs) : Canonical (spelled true names)
  /-- A relative path. -/
  | relative (n : Nat) {names : List Bytes} (h : ∀ bs ∈ names, IsName bs) :
      Canonical (spelled false (List.replicate n [dot, dot] ++ names))

/-! ### Resolved components -/

/-- The components that the octets of a path resolve to, last first. -/
def resolved (p : Path) : List Component :=
  (body p.bytes).foldl (resolveStep p.isAbsolute) (origin p.isAbsolute)

theorem stack_origin (absolute : Bool) : Stack absolute (origin absolute) := by
  cases absolute with
  | true => exact .beginning .root
  | false => exact .beginning (.ups 0)

theorem stack_resolved (p : Path) : Stack p.isAbsolute p.resolved :=
  (stack_origin _).foldl (isInner_of_mem_bodyOf fun _ h => separator_not_mem_of_mem_pieces h)

theorem normalize_eq_resolved (p : Path) : p.normalize = ofComponents p.resolved.reverse :=
  normalize_eq p

theorem resolved_normalize (p : Path) : p.normalize.resolved = p.resolved := by
  have h : ∀ q : Path, q.normalize.components = q.resolved.reverse := fun q => by
    rw [normalize_eq_resolved]
    exact components_ofComponents (stack_resolved q).layout
  refine List.reverse_injective ?_
  rw [← h, ← h, normalize_normalize]

/-- **A path may be normalized before another one is put behind it.** -/
theorem normalize_join (p q : Path) : (p.join q).normalize = (p.normalize.join q).normalize := by
  cases hq : q.isAbsolute with
  | true => simp [join, hq]
  | false =>
    have hresolved := resolved_normalize p
    rw [resolved, resolved, isAbsolute_normalize] at hresolved
    rw [normalize_eq, normalize_eq, body_join hq, body_join hq, isAbsolute_join_of_relative hq,
      isAbsolute_join_of_relative hq, isAbsolute_normalize, List.foldl_append, List.foldl_append,
      hresolved]

/-- Components may be resolved on their own, as those of a relative path, before they are put on
others. -/
theorem foldl_resolve (absolute : Bool) (cs done : List Component) :
    (resolve false cs).foldl (resolveStep absolute) done =
      cs.foldl (resolveStep absolute) done := by
  rw [resolve]
  induction cs using List.reverseRecOn with
  | nil => rfl
  | append_singleton cs c ih =>
    rw [List.foldl_append, List.foldl_append, ← ih]
    generalize cs.foldl (resolveStep false) [] = own
    cases c with
    | here => rfl
    | root | name => simp [resolveStep]
    | up =>
      -- `..` takes back a name of its own, or waits for one before it
      cases own with
      | nil => rfl
      | cons top own => cases top <;> simp [resolveStep]

/-- A path may be normalized before it is seen from a directory. -/
theorem normalize_join_normalize (dir : Path) {p : Path} (h : p.isAbsolute = false) :
    (dir.join p.normalize).normalize = (dir.join p).normalize := by
  have hnormal : p.normalize.isAbsolute = false := by rw [isAbsolute_normalize, h]
  have hresolve : resolve false (body p.normalize.bytes) = resolve false (body p.bytes) := by
    have hresolved := resolved_normalize p
    rw [resolved, resolved, hnormal, h] at hresolved
    exact congrArg List.reverse hresolved
  rw [normalize_eq (dir.join p.normalize), normalize_eq (dir.join p), body_join hnormal,
    body_join h, isAbsolute_join_of_relative hnormal, isAbsolute_join_of_relative h,
    List.foldl_append, List.foldl_append, ← foldl_resolve _ (body p.normalize.bytes), hresolve,
    foldl_resolve]

/-- Seen from a directory, the empty path is the directory. -/
theorem normalize_join_empty (dir : Path) : (dir.join ⟨[]⟩).normalize = dir.normalize := by
  have h : isAbsolute ⟨[]⟩ = false := rfl
  rw [normalize_eq, normalize_eq, body_join h, isAbsolute_join_of_relative h, body_nil,
    List.append_nil]

/-! ### Canonical paths -/

theorem spelled_relative (n : Nat) (names : List Bytes) :
    spelled false (List.replicate n [dot, dot] ++ names) =
      ofComponents (List.replicate n Component.up ++ names.map Component.name) := by
  have hhead : (List.replicate n Component.up ++ names.map Component.name).head? ≠
      some .root := by
    cases n <;> cases names <;> simp [List.replicate_succ]
  have hspell : (List.replicate n Component.up ++ names.map Component.name).map spell =
      List.replicate n [dot, dot] ++ names := by
    rw [List.map_append, List.map_replicate, List.map_map]
    exact congrArg _ (List.map_id names)
  have hbytes := bytes_ofComponents hhead
  rw [hspell] at hbytes
  exact congrArg Path.mk hbytes.symm

/-- **Canonical paths are those written by resolved components.** -/
theorem canonical_iff :
    Canonical p ↔ ∃ done, Stack p.isAbsolute done ∧ p = ofComponents done.reverse := by
  constructor
  · intro h
    cases h with
    | rooted h => exact ⟨_, stack_names h, by rw [List.reverse_reverse, spelled_names, Path.rooted]⟩
    | @relative n names h =>
      have hstack := (Beginning.ups n).stack h
      have hrelative := isAbsolute_ofComponents hstack.layout
      rw [List.reverse_reverse, List.reverse_replicate, ← spelled_relative] at hrelative
      rw [← hrelative] at hstack
      exact ⟨_, hstack, by rw [List.reverse_reverse, List.reverse_replicate, spelled_relative]⟩
  · rintro ⟨done, hstack, hp⟩
    obtain ⟨first, names, hfirst, hnames, heq⟩ := hstack.exists_beginning
    rw [hp, heq]
    generalize p.isAbsolute = absolute at hfirst
    cases hfirst with
    | root =>
      have hspelled := spelled_names names
      rw [Path.rooted] at hspelled
      rw [List.reverse_singleton, List.singleton_append, ← hspelled]
      exact .rooted hnames
    | ups n =>
      rw [List.reverse_replicate, ← spelled_relative]
      exact .relative n hnames

/-- The normal forms are the canonical paths. -/
theorem normalize_eq_self_iff : p.normalize = p ↔ Canonical p := by
  rw [canonical_iff]
  constructor
  · intro h
    exact ⟨p.resolved, stack_resolved p, h.symm.trans (normalize_eq_resolved p)⟩
  · rintro ⟨done, hstack, hp⟩
    rw [← List.reverse_reverse done] at hstack
    rw [hp, hstack.normalize_written]

/-! ### The written form of canonical paths -/

theorem pieces_append_cons (xs ys : Bytes) :
    pieces (xs ++ separator :: ys) = pieces xs ++ pieces ys := by
  simp only [pieces_eq]
  exact Text.splitOnAll_append_cons (by decide) xs ys

/-- Where no piece is empty, no separator stands at an end or beside another one. -/
theorem separated_of_nil_not_mem (h : [] ∉ pieces bs) :
    bs.getLast? ≠ some separator ∧ ¬ [separator, separator] <:+: separator :: bs := by
  have hcut : ∀ xs ys, bs = xs ++ separator :: ys → [] ∉ pieces xs ∧ [] ∉ pieces ys := by
    rintro xs ys rfl
    rwa [pieces_append_cons, List.mem_append, not_or] at h
  constructor
  · intro hlast
    obtain ⟨init, hinit⟩ := List.getLast?_eq_some_iff.1 hlast
    exact (hcut init [] hinit).2 (List.mem_singleton_self _)
  · rintro ⟨xs, ys, heq⟩
    cases xs with
    | nil =>
      obtain ⟨-, hbs⟩ := List.cons.inj heq
      exact (hcut [] ys hbs.symm).1 (List.mem_singleton_self _)
    | cons x xs =>
      obtain ⟨-, hbs⟩ := List.cons.inj heq
      have hpair : bs = xs ++ separator :: separator :: ys := by simpa using hbs.symm
      refine (hcut xs _ hpair).2 ?_
      rw [pieces_cons_separator]
      exact List.mem_cons_self ..

/-- What a canonical path looks like, octet by octet. -/
structure Tidy (p : Path) : Prop where
  /-- No piece between separators is `.`. -/
  no_here : [dot] ∉ pieces p.bytes
  /-- No two separators stand beside each other. -/
  no_empty : ¬ [separator, separator] <:+: p.bytes
  /-- The only path with a separator at its end is the root. -/
  no_trailing : p.bytes.getLast? = some separator → p.bytes = [separator]
  /-- In an absolute path no piece is `..`. -/
  no_up : p.isAbsolute = true → [dot, dot] ∉ pieces p.bytes
  /-- In a relative path `..` stands only before all names. -/
  ups_first : p.isAbsolute = false → ∃ (n : Nat) (names : List Bytes),
    (∀ bs ∈ names, IsName bs) ∧
      p.components = List.replicate n Component.up ++ names.map Component.name

/-- Segments that say something, as they stand between separators. -/
def AreWritten (ss : List Bytes) : Prop := ∀ bs ∈ ss, separator ∉ bs ∧ bs ≠ []

theorem mem_pieces_spelled (h : AreWritten ss) {piece : Bytes}
    (hp : piece ∈ pieces (spelled absolute ss).bytes) : piece = [] ∨ piece ∈ ss := by
  have hsegments : piece ∈ pieces (List.intercalate [separator] ss) → piece = [] ∨ piece ∈ ss := by
    intro hp
    by_cases hnil : ss = []
    · subst hnil
      exact .inl (List.mem_singleton.1 hp)
    · rw [pieces_intercalate hnil fun bs hbs => (h bs hbs).1] at hp
      exact .inr hp
  cases absolute with
  | false => exact hsegments hp
  | true =>
    have hroot : pieces (spelled true ss).bytes = [] :: pieces (List.intercalate [separator] ss) :=
      pieces_cons_separator _
    rw [hroot] at hp
    exact (List.mem_cons.1 hp).elim .inl hsegments

/-- What is written by segments has no separator at its end, and none beside another one, not even
behind the root. -/
theorem AreWritten.separated (h : AreWritten ss) :
    (List.intercalate [separator] ss).getLast? ≠ some separator ∧
      ¬ [separator, separator] <:+: separator :: List.intercalate [separator] ss := by
  by_cases hnil : ss = []
  · subst hnil
    exact ⟨nofun, fun hinfix => by simpa using hinfix.length_le⟩
  · refine separated_of_nil_not_mem ?_
    rw [pieces_intercalate hnil fun bs hbs => (h bs hbs).1]
    exact fun hmem => (h [] hmem).2 rfl

theorem AreWritten.no_empty (h : AreWritten ss) (absolute : Bool) :
    ¬ [separator, separator] <:+: (spelled absolute ss).bytes := by
  cases absolute with
  | true => exact h.separated.2
  | false => exact fun hpair => h.separated.2 (hpair.trans (List.suffix_cons _ _).isInfix)

theorem AreWritten.no_trailing (h : AreWritten ss)
    (hlast : (spelled absolute ss).bytes.getLast? = some separator) :
    (spelled absolute ss).bytes = [separator] := by
  cases absolute with
  | false => exact absurd hlast h.separated.1
  | true =>
    have hbytes : (spelled true ss).bytes = separator :: List.intercalate [separator] ss := rfl
    rw [hbytes] at hlast ⊢
    have hend := h.separated.1
    cases hbody : List.intercalate [separator] ss with
    | nil => rfl
    | cons b bs =>
      rw [hbody, List.getLast?_cons_cons, ← hbody] at hlast
      exact absurd hlast hend

/-- **What a canonical path looks like.** -/
theorem Canonical.tidy (h : Canonical p) : p.Tidy := by
  cases h with
  | @rooted names h =>
    have hwritten : AreWritten names := fun bs hbs => ⟨(h bs hbs).1, (h bs hbs).2.1⟩
    have hpiece : ∀ piece ∈ pieces (spelled true names).bytes, piece = [] ∨ IsName piece :=
      fun piece hp => (mem_pieces_spelled hwritten hp).imp_right (h piece)
    exact {
      no_here := fun hdot => (hpiece _ hdot).elim nofun fun hname => hname.2.2.1 rfl
      no_empty := hwritten.no_empty true
      no_trailing := hwritten.no_trailing
      no_up := fun _ hdots => (hpiece _ hdots).elim nofun fun hname => hname.2.2.2 rfl
      ups_first := nofun }
  | @relative n names h =>
    have hlayout := ((Beginning.ups n).stack h).layout
    rw [List.reverse_reverse, List.reverse_replicate] at hlayout
    have hsegment : ∀ bs ∈ List.replicate n [dot, dot] ++ names, bs = [dot, dot] ∨ IsName bs :=
      fun bs hbs => (List.mem_append.1 hbs).imp List.eq_of_mem_replicate (h bs)
    have hwritten : AreWritten (List.replicate n [dot, dot] ++ names) := by
      intro bs hbs
      obtain rfl | hname := hsegment bs hbs
      · exact ⟨by decide, nofun⟩
      · exact ⟨hname.1, hname.2.1⟩
    refine ⟨fun hdot => ?_, hwritten.no_empty false, hwritten.no_trailing, fun habs => ?_,
      fun _ => ⟨n, names, h, ?_⟩⟩
    · obtain hnil | hmem := mem_pieces_spelled hwritten hdot
      · contradiction
      · exact (hsegment _ hmem).elim nofun fun hname => hname.2.2.1 rfl
    · rw [spelled_relative, isAbsolute_ofComponents hlayout] at habs
      contradiction
    · rw [spelled_relative, components_ofComponents hlayout]

/-! ### Editing a written form -/

/-- One component put on what is written: `..` takes the last name off, where there is one, and a
name comes behind it. -/
def edit (absolute : Bool) (out : Path) : Component → Path
  | .root => out.join ⟨[separator]⟩
  | .here => out
  | .up =>
    match out.components.getLast? with
    | some (.name _) => out.parent?.getD out
    | _ => if absolute then out else out.join ⟨[dot, dot]⟩
  | .name bs => out.join ⟨bs⟩

theorem endSeparated_append {xs ys : Bytes} (hys : ys ≠ []) :
    endSeparated (xs ++ ys) = xs ++ endSeparated ys := by
  rw [endSeparated, endSeparated, List.getLast?_append_of_ne_nil _ hys]
  by_cases hlast : ys.getLast? = some separator
  · simp [hlast]
  · simp [hlast, hys]

theorem endSeparated_segment (hne : bs ≠ []) (hs : separator ∉ bs) :
    endSeparated bs = bs ++ [separator] := by
  have hlast : bs.getLast? ≠ some separator := fun h => hs (List.mem_of_getLast? h)
  rw [endSeparated, if_neg (not_or.2 ⟨hne, hlast⟩)]

/-- One segment more is written behind a separator, unless it is the first one. -/
theorem AreWritten.endSeparated_intercalate (h : AreWritten ss) (bs : Bytes) :
    endSeparated (List.intercalate [separator] ss) ++ bs =
      List.intercalate [separator] (ss ++ [bs]) := by
  induction ss with
  | nil => simp [endSeparated]
  | cons first rest ih =>
    obtain ⟨⟨hs, hne⟩, hrest⟩ := List.forall_mem_cons.1 h
    cases rest with
    | nil =>
      rw [List.intercalate_singleton, endSeparated_segment hne hs]
      simp [List.intercalate]
    | cons next rest =>
      have hbody : List.intercalate [separator] (next :: rest) ≠ [] := by
        have hnext := (hrest next (List.mem_cons_self ..)).2
        cases rest <;> simp [List.intercalate, hnext]
      rw [List.intercalate_cons_cons, endSeparated_append hbody, List.append_assoc, ih hrest]
      simp only [List.cons_append, List.intercalate_cons_cons, List.append_assoc]

theorem areWritten_spell (h : ∀ c ∈ cs, IsInner c) : AreWritten (cs.map spell) := by
  intro bs hbs
  obtain ⟨c, hc, rfl⟩ := List.mem_map.1 hbs
  exact ⟨(h c hc).separator_not_mem, (h c hc).spell_ne.1⟩

theorem isAbsolute_spell (h : IsInner c) : isAbsolute ⟨spell c⟩ = false := by
  have hs := isAbsolute_intercalate h.spell_ne.1 h.separator_not_mem []
  rwa [List.intercalate_singleton] at hs

theorem endSeparated_ofComponents (h : Layout absolute cs) (hc : IsInner c) :
    endSeparated (ofComponents cs).bytes ++ spell c = (ofComponents (cs ++ [c])).bytes := by
  cases h with
  | @rooted cs hcs =>
    have hroot : endSeparated (separator :: List.intercalate [separator] (cs.map spell)) =
        separator :: endSeparated (List.intercalate [separator] (cs.map spell)) := by
      by_cases hnil : List.intercalate [separator] (cs.map spell) = []
      · rw [hnil]
        rfl
      · exact @endSeparated_append [separator] _ hnil
    rw [List.cons_append, bytes_ofComponents_root, bytes_ofComponents_root, hroot,
      List.cons_append, (areWritten_spell hcs).endSeparated_intercalate, List.map_append]
    rfl
  | @here cs hcs =>
    have hwritten : AreWritten ((Component.here :: cs).map spell) :=
      List.forall_mem_cons.2 ⟨⟨by decide, by decide⟩, areWritten_spell hcs⟩
    rw [bytes_ofComponents (by simp), bytes_ofComponents (by simp),
      hwritten.endSeparated_intercalate, List.map_append]
    rfl
  | plain hcs =>
    have hhead : ∀ {ds : List Component}, (∀ d ∈ ds, IsInner d) → ds.head? ≠ some .root :=
      fun hds hroot => nomatch hds .root (List.mem_of_mem_head? hroot)
    have hall : ∀ d ∈ cs ++ [c], IsInner d :=
      List.forall_mem_append.2 ⟨hcs, List.forall_mem_singleton.2 hc⟩
    rw [bytes_ofComponents (hhead hcs), bytes_ofComponents (hhead hall),
      (areWritten_spell hcs).endSeparated_intercalate, List.map_append]
    rfl

/-- One component more is put behind what is written by the others. -/
theorem join_spell (h : Layout absolute cs) (hc : IsInner c) :
    (ofComponents cs).join ⟨spell c⟩ = ofComponents (cs ++ [c]) := by
  rw [join, isAbsolute_spell hc, if_neg (by decide)]
  exact congrArg Path.mk (endSeparated_ofComponents h hc)

/-- **Editing what is written resolves the component.** -/
theorem edit_ofComponents (h : Stack absolute done) (hc : IsInner c) :
    edit absolute (ofComponents done.reverse) c =
      ofComponents (resolveStep absolute done c).reverse := by
  cases hc with
  | @name bs hbs =>
    have hjoin := join_spell h.layout (.name hbs)
    rw [← List.reverse_cons] at hjoin
    exact hjoin
  | up =>
    have hread := components_ofComponents h.layout
    have hjoin := join_spell h.layout .up
    cases h with
    | @name done bs h hbs =>
      rw [List.reverse_cons] at hread ⊢
      simp only [edit, hread, parent?, List.getLast?_concat, List.dropLast_concat]
      rfl
    | beginning hb =>
      cases hb with
      | root => rfl
      | ups n =>
        rw [← List.reverse_cons] at hjoin
        rw [resolveStep_ups, List.replicate_succ, ← hjoin]
        -- above parents there is no name
        cases n with
        | zero => rfl
        | succ n =>
          rw [List.reverse_replicate] at hread ⊢
          simp [edit, hread, List.getLast?_replicate, spell]

theorem foldl_edit (h : Stack absolute done) (hcs : ∀ c ∈ cs, IsInner c) :
    cs.foldl (edit absolute) (ofComponents done.reverse) =
      ofComponents (cs.foldl (resolveStep absolute) done).reverse := by
  induction cs generalizing done with
  | nil => rfl
  | cons c cs ih =>
    obtain ⟨hc, hcs⟩ := List.forall_mem_cons.1 hcs
    rw [List.foldl_cons, List.foldl_cons, edit_ofComponents h hc, ih (h.resolveStep hc) hcs]

/-- **Editing in place gives the normal form.** -/
theorem normalize_eq_foldl_edit (p : Path) :
    p.normalize = p.components.foldl (edit p.isAbsolute) ⟨[]⟩ := by
  have hlayout := layout_components p
  rw [normalize, resolve]
  generalize p.components = cs at hlayout
  generalize p.isAbsolute = absolute at hlayout
  cases hlayout with
  | rooted hcs => exact (foldl_edit (.beginning .root) hcs).symm
  | here hcs => exact (foldl_edit (.beginning (.ups 0)) hcs).symm
  | plain hcs => exact (foldl_edit (.beginning (.ups 0)) hcs).symm

theorem empty_join (p : Path) : (⟨[]⟩ : Path).join p = p := by
  rw [join]
  split_ifs <;> rfl

end Path

namespace Host

variable {host : Host}

theorem value_absolutize (host : Host) (p : Path) :
    (host.absolutize p).value = Path.absoluteFrom host.workingDir.value p := by
  rw [absolutize, Path.absoluteFrom]
  split_ifs <;> rfl

theorem workingDir_of_error {e : Refusal} (h : host.currentDir = .error e) :
    host.workingDir.value = Path.ofString "." := by
  rw [workingDir, h]
  rfl

/-- **Seen from any current directory, a path is made absolute once.**  Where the directory cannot
be read, a relative path stays one. -/
theorem absolutize_absolutize (h : ∀ dir, host.currentDir = .ok dir → dir.isAbsolute = true)
    (p : Path) : (host.absolutize (host.absolutize p).value).value = (host.absolutize p).value := by
  have hnormal := host.normalize_absolutize p
  generalize hq : (host.absolutize p).value = q at hnormal ⊢
  rw [value_absolutize, Path.absoluteFrom]
  split_ifs with habs
  · exact hnormal
  · cases hdir : host.currentDir with
    | ok dir =>
      -- what is seen from the directory is absolute
      refine absurd ?_ habs
      rw [← hq, absolutize_eq hdir]
      exact Path.isAbsolute_absoluteFrom (h dir hdir) p
    | error e =>
      have hdot : (Path.ofString ".").normalize = ⟨[]⟩ := by decide +kernel
      rw [workingDir_of_error hdir, Path.normalize_join, hdot, Path.empty_join, hnormal]

end Host

namespace Path

/-- **The normal form is canonical.**  It is as absolute as the path, no `.`, no empty segment and
no separator at its end is left in it, and `..` stands only where a relative path leads above where
it is seen from.  The canonical paths, and no others, are their own normal forms.  The normal form
is what editing the written form in place gives; a path may be normalized before another one is put
behind it; and making a path absolute a second time changes nothing, whether the current directory,
which is an absolute path, can be read or not. -/
theorem normalize_canonical (p : Path) :
    p.normalize.isAbsolute = p.isAbsolute ∧
    p.normalize.Tidy ∧
    (p.normalize.Canonical ∧ (p.normalize = p ↔ p.Canonical)) ∧
    p.normalize = p.components.foldl (edit p.isAbsolute) ⟨[]⟩ ∧
    p.normalize.normalize = p.normalize ∧
    (∀ q : Path, (p.join q).normalize = (p.normalize.join q).normalize) ∧
    ∀ host : Host, (∀ dir, host.currentDir = .ok dir → dir.isAbsolute = true) →
      (host.absolutize (host.absolutize p).value).value = (host.absolutize p).value := by
  have hcanonical : p.normalize.Canonical := normalize_eq_self_iff.1 (normalize_normalize p)
  exact ⟨isAbsolute_normalize p, hcanonical.tidy, ⟨hcanonical, normalize_eq_self_iff⟩,
    normalize_eq_foldl_edit p, normalize_normalize p, normalize_join p,
    fun _ hdir => Host.absolutize_absolutize hdir p⟩

/-- A current directory that cannot be read. -/
def lostHost : Host where
  currentDir := .error .notFound
  readFile _ := .error .notFound
  kind? _ := none
  start _ := .error .notFound

/-- The current directory `/w`, and nothing else. -/
def homeHost : Host := { lostHost with currentDir := .ok (ofString "/w") }

/-- A relative path is made absolute in the current directory, and to a relative one where that is
lost. -/
theorem normalize_canonical_lost :
    (homeHost.absolutize (homeHost.absolutize (ofString "x/.././/../y/.")).value).value =
      (homeHost.absolutize (ofString "x/.././/../y/.")).value ∧
    (lostHost.absolutize (lostHost.absolutize (ofString "x/.././/../y/.")).value).value =
      (lostHost.absolutize (ofString "x/.././/../y/.")).value := by
  have hidempotent := (normalize_canonical (ofString "x/.././/../y/.")).2.2.2.2.2.2
  refine ⟨hidempotent homeHost ?_, hidempotent lostHost fun _ h => nomatch h⟩
  intro dir hdir
  cases hdir
  decide

example : (homeHost.absolutize (ofString "x/.././/../y/.")).value = ofString "/y" := by
  decide +kernel

example : (lostHost.absolutize (ofString "x/.././/../y/.")).value = ofString "../y" := by
  decide +kernel

end Path

end ToolRelay
