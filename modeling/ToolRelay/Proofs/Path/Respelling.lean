import Mathlib.Logic.Relation
import Mathlib.Tactic.SplitIfs
import ToolRelay.Proofs.Path.Normal

/-!
# Ways to write a path

A path can be written in many ways.  Between its segments may stand empty ones, `.`, and names that
`..` takes back; `..` may stand behind the root; and what lies below a directory may be written
without it, where that directory is the current one (`Path.Respelling`).

What a path says is a sequence of components (`Path.body`), and the normal form is what they resolve
to from the beginning of the path (`Path.normalize_eq`).  A separator joins such sequences
(`Path.body_append_cons`), so a detour between segments adds components that resolve to nothing.

* `Path.absoluteFrom_of_respelling` : another spelling has the same normal form;
* `Path.Alike.absoluteFrom_eq` : so have paths that differ by any number of respellings;
* `Path.alike_iff` : and no other paths have.
-/

namespace ToolRelay

namespace Path

/-! ### The components of a written form -/

/-- What octets say: the components that their pieces spell. -/
def body (bs : Bytes) : List Component := bodyOf (pieces bs)

theorem bodyOf_append (ps qs : List Bytes) : bodyOf (ps ++ qs) = bodyOf ps ++ bodyOf qs := by
  rw [bodyOf, List.filter_append, List.map_append, bodyOf, bodyOf]

@[simp]
theorem body_nil : body [] = [] := rfl

/-- A separator stands between what comes before it and what comes after it. -/
theorem body_append_cons (xs ys : Bytes) : body (xs ++ separator :: ys) = body xs ++ body ys := by
  rw [body, pieces_eq, Text.splitOnAll_append_cons (by decide), bodyOf_append, ← pieces_eq,
    ← pieces_eq, body, body]

@[simp]
theorem body_cons_separator (bs : Bytes) : body (separator :: bs) = body bs := by
  rw [← List.nil_append (separator :: bs), body_append_cons, body_nil, List.nil_append]

theorem body_intercalate (ps : List Bytes) :
    body (List.intercalate [separator] ps) = ps.flatMap body := by
  induction ps with
  | nil => rfl
  | cons piece ps ih =>
    cases ps with
    | nil => simp [List.intercalate_singleton]
    | cons next ps =>
      rw [List.intercalate_cons_cons, List.append_assoc, List.singleton_append, body_append_cons,
        ih]
      rfl

theorem body_of_separator_not_mem {piece : Bytes} (h : separator ∉ piece) :
    body piece = bodyOf [piece] := by
  have hp : pieces (List.intercalate [separator] [piece]) = [piece] :=
    pieces_intercalate (List.cons_ne_nil _ _) (List.forall_mem_singleton.2 h)
  rw [List.intercalate_singleton] at hp
  rw [body, hp]

theorem body_name {bs : Bytes} (h : IsName bs) : body bs = [.name bs] := by
  rw [body_of_separator_not_mem h.1]
  exact @bodyOf_map_spell [.name bs] (List.forall_mem_singleton.2 (.name h))

theorem body_dot : body [dot] = [] := by
  rw [body_of_separator_not_mem (by decide)]
  rfl

theorem body_dots : body [dot, dot] = [.up] := by
  rw [body_of_separator_not_mem (by decide)]
  rfl

/-- The components resolved before the first one that a written form spells. -/
def origin (absolute : Bool) : List Component := if absolute then [.root] else []

/-- **The normal form resolves what the octets say**, from the root for an absolute path. -/
theorem normalize_eq (p : Path) :
    p.normalize = ofComponents
      ((body p.bytes).foldl (resolveStep p.isAbsolute) (origin p.isAbsolute)).reverse := by
  have hfirst : ∀ first rest, isIdle first = true → bodyOf (first :: rest) = bodyOf rest := by
    intro first rest hi
    simp [bodyOf, hi]
  rw [normalize, resolve, components, body]
  cases hp : pieces p.bytes with
  | nil => exact absurd hp (List.cons_ne_nil _ _)
  | cons first rest =>
    cases ha : p.isAbsolute with
    | true =>
      -- before the first separator there is nothing
      obtain ⟨bs, hbs⟩ := List.head?_eq_some_iff.1 (eq_of_beq ha)
      rw [hbs, pieces_cons_separator] at hp
      obtain ⟨rfl, -⟩ := List.cons.inj hp
      rw [hfirst [] rest rfl]
      rfl
    | false =>
      simp only [Bool.false_eq_true, if_false]
      split_ifs with hdot
      · subst hdot
        rw [hfirst [dot] rest rfl]
        rfl
      · rfl

/-! ### Seen from a directory -/

theorem body_endSeparated (bs cs : Bytes) : body (endSeparated bs ++ cs) = body bs ++ body cs := by
  unfold endSeparated
  split_ifs with h
  · obtain rfl | hlast := h
    · rfl
    · obtain ⟨init, rfl⟩ := List.getLast?_eq_some_iff.1 hlast
      rw [List.append_assoc, List.singleton_append, body_append_cons, body_append_cons, body_nil,
        List.append_nil]
  · rw [List.append_assoc, List.singleton_append, body_append_cons]

theorem body_join {dir p : Path} (h : p.isAbsolute = false) :
    body (dir.join p).bytes = body dir.bytes ++ body p.bytes := by
  rw [join, h]
  exact body_endSeparated dir.bytes p.bytes

/-- Whether a relative path seen from a directory is absolute is a matter of the directory. -/
theorem isAbsolute_join_of_relative {dir p : Path} (h : p.isAbsolute = false) :
    (dir.join p).isAbsolute = dir.isAbsolute := by
  rw [join, h, isAbsolute, isAbsolute, endSeparated]
  cases hd : dir.bytes with
  | nil => simpa [isAbsolute] using h
  | cons b bs =>
    simp only [Bool.false_eq_true, if_false]
    split_ifs <;> rfl

/-! ### Spellings -/

/-- The path written by segments, behind the root if it is absolute. -/
def spelled (absolute : Bool) (segments : List Bytes) : Path :=
  ⟨(if absolute then [separator] else []) ++ List.intercalate [separator] segments⟩

/-- Segments that lead nowhere. -/
inductive Detour : List Bytes → Prop where
  /-- An empty segment; at the end of a path it is a trailing separator. -/
  | empty : Detour [[]]
  /-- The segment `.`. -/
  | here : Detour [[dot]]
  /-- A name, and `..` to go back. -/
  | back {bs : Bytes} (h : IsName bs) : Detour [bs, [dot, dot]]

/-- Another way to write a path, where relative paths are seen from `dir`. -/
inductive Respelling (dir : Path) : Path → Path → Prop where
  /-- A detour after the root, or after a segment, where `xs` are the segments up to there. -/
  | detour {absolute : Bool} {xs ys detour : List Bytes}
      (hxs : absolute = true ∨ ∃ first rest, xs = first :: rest ∧ first ≠ [])
      (h : Detour detour) :
      Respelling dir (spelled absolute (xs ++ ys)) (spelled absolute (xs ++ detour ++ ys))
  /-- `..` behind the root. -/
  | aboveRoot (segments : List Bytes) :
      Respelling dir (spelled true segments) (spelled true ([dot, dot] :: segments))
  /-- A path below the directory without the directory. -/
  | relative {p : Path} (hdir : dir.isAbsolute = true) (hp : p.isAbsolute = false) :
      Respelling dir (dir.join p) p

/-- Paths that come from each other by respellings, any number of times. -/
def Alike (dir : Path) : Path → Path → Prop := Relation.EqvGen (Respelling dir)

theorem body_spelled (absolute : Bool) (segments : List Bytes) :
    body (spelled absolute segments).bytes = segments.flatMap body := by
  cases absolute with
  | true => exact (body_cons_separator _).trans (body_intercalate segments)
  | false => exact body_intercalate segments

theorem isAbsolute_spelled_of_ne_nil {first : Bytes} (h : first ≠ []) (rest : List Bytes) :
    (spelled false (first :: rest)).isAbsolute = isAbsolute ⟨first⟩ := by
  obtain ⟨b, bs, rfl⟩ := List.exists_cons_of_ne_nil h
  cases rest <;> rfl

/-- How a path begins is told by its root or by its first segment. -/
theorem isAbsolute_spelled_append {absolute : Bool} {xs : List Bytes}
    (hxs : absolute = true ∨ ∃ first rest, xs = first :: rest ∧ first ≠ []) (ys zs : List Bytes) :
    (spelled absolute (xs ++ ys)).isAbsolute = (spelled absolute (xs ++ zs)).isAbsolute := by
  cases absolute with
  | true => rfl
  | false =>
    obtain h | ⟨first, rest, rfl, hfirst⟩ := hxs
    · contradiction
    · rw [List.cons_append, List.cons_append, isAbsolute_spelled_of_ne_nil hfirst,
        isAbsolute_spelled_of_ne_nil hfirst]

/-- A detour changes nothing about what has been resolved before it. -/
theorem Detour.foldl_body {detour : List Bytes} (h : Detour detour) (absolute : Bool)
    (done : List Component) :
    (detour.flatMap body).foldl (resolveStep absolute) done = done := by
  cases h with
  | empty => rfl
  | here =>
    rw [List.flatMap_singleton, body_dot]
    rfl
  | back hname =>
    rw [List.flatMap_cons, List.flatMap_singleton, body_name hname, body_dots]
    rfl

variable {dir p q : Path}

/-- **Another spelling has the same absolute normal form.** -/
theorem absoluteFrom_of_respelling (h : Respelling dir p q) :
    absoluteFrom dir p = absoluteFrom dir q := by
  cases h with
  | @detour absolute xs ys detour hxs hd =>
    have habs : (spelled absolute (xs ++ ys)).isAbsolute =
        (spelled absolute (xs ++ detour ++ ys)).isAbsolute := by
      rw [List.append_assoc]
      exact isAbsolute_spelled_append hxs _ _
    -- the components of both resolve to the same, whatever comes before them
    have hfold : ∀ a done,
        (body (spelled absolute (xs ++ ys)).bytes).foldl (resolveStep a) done =
          (body (spelled absolute (xs ++ detour ++ ys)).bytes).foldl (resolveStep a) done := by
      intro a done
      simp only [body_spelled, List.flatMap_append, List.foldl_append, hd.foldl_body]
    rw [absoluteFrom, absoluteFrom, ← habs]
    split_ifs with ha
    · rw [normalize_eq, normalize_eq, ← habs, hfold]
    · have hp : (spelled absolute (xs ++ ys)).isAbsolute = false := by simpa using ha
      have hq : (spelled absolute (xs ++ detour ++ ys)).isAbsolute = false := habs ▸ hp
      rw [normalize_eq, normalize_eq, body_join hp, body_join hq, isAbsolute_join_of_relative hp,
        isAbsolute_join_of_relative hq, List.foldl_append, List.foldl_append, hfold]
  | aboveRoot segments =>
    have habs : ∀ ss, (spelled true ss).isAbsolute = true := fun _ => rfl
    rw [absoluteFrom, absoluteFrom, habs, habs, if_pos rfl, if_pos rfl, normalize_eq, normalize_eq,
      habs, habs, body_spelled, body_spelled, List.flatMap_cons, body_dots]
    rfl
  | relative hdir hq =>
    have hp : (dir.join q).isAbsolute = true := isAbsolute_join hdir q
    rw [absoluteFrom, absoluteFrom, hp, hq]
    rfl

theorem Alike.absoluteFrom_eq (h : Alike dir p q) : absoluteFrom dir p = absoluteFrom dir q := by
  induction h with
  | rel p q h => exact absoluteFrom_of_respelling h
  | refl p => rfl
  | symm p q _ ih => exact ih.symm
  | trans p q r _ _ ihpq ihqr => exact ihpq.trans ihqr

/-- Absolute paths have the same normal form, wherever the directory is. -/
theorem Alike.normalize_eq (h : Alike dir p q) (hp : p.isAbsolute = true)
    (hq : q.isAbsolute = true) : p.normalize = q.normalize := by
  have habs := h.absoluteFrom_eq
  rw [absoluteFrom, absoluteFrom, hp, hq] at habs
  exact habs

/-! ### All spellings -/

theorem spelled_names (names : List Bytes) : spelled true names = rooted names := by
  rw [rooted, ofComponents, List.map_map, show spell ∘ Component.name = id from rfl, List.map_id]
  rfl

theorem spelled_pieces (h : p.isAbsolute = true) : spelled true (pieces p.bytes).tail = p := by
  obtain ⟨bs, hbs⟩ := List.head?_eq_some_iff.1 (eq_of_beq h)
  rw [hbs, pieces_cons_separator, List.tail_cons, spelled, intercalate_pieces, if_pos rfl,
    List.singleton_append, ← hbs]

/-- Behind names, segments can be taken in one after another: what is left are names. -/
theorem exists_alike_names (dir : Path) {names : List Bytes} (hn : ∀ bs ∈ names, IsName bs)
    (segments : List Bytes) (hs : ∀ bs ∈ segments, separator ∉ bs) :
    ∃ all, (∀ bs ∈ all, IsName bs) ∧
      Alike dir (spelled true (names ++ segments)) (spelled true all) := by
  induction segments generalizing names with
  | nil => exact ⟨names, hn, by rw [List.append_nil]; exact .refl _⟩
  | cons bs segments ih =>
    obtain ⟨hbs, hrest⟩ := List.forall_mem_cons.1 hs
    -- a detour before the other segments is taken out
    have hout {xs detour : List Bytes} (hx : ∀ bs ∈ xs, IsName bs) (hd : Detour detour) :
        ∃ all, (∀ bs ∈ all, IsName bs) ∧
          Alike dir (spelled true (xs ++ detour ++ segments)) (spelled true all) := by
      obtain ⟨all, hall, ha⟩ := ih hx hrest
      exact ⟨all, hall, .trans _ _ _ (.symm _ _ (.rel _ _ (.detour (.inl rfl) hd))) ha⟩
    by_cases hempty : bs = []
    · subst hempty
      simpa using hout hn .empty
    by_cases hdot : bs = [dot]
    · subst hdot
      simpa using hout hn .here
    by_cases hdots : bs = [dot, dot]
    · subst hdots
      obtain rfl | ⟨init, last, rfl⟩ := List.eq_nil_or_concat' names
      · obtain ⟨all, hall, ha⟩ := ih hn hrest
        exact ⟨all, hall, .trans _ _ _ (.symm _ _ (.rel _ _ (.aboveRoot segments))) ha⟩
      · obtain ⟨hinit, hlast⟩ := List.forall_mem_append.1 hn
        simpa using hout hinit (.back (hlast last (List.mem_singleton_self last)))
    · have hname : ∀ b ∈ names ++ [bs], IsName b :=
        List.forall_mem_append.2 ⟨hn, List.forall_mem_singleton.2 ⟨hbs, hempty, hdot, hdots⟩⟩
      simpa using ih hname hrest

/-- An absolute path is another spelling of its normal form. -/
theorem alike_normalize (dir : Path) (h : p.isAbsolute = true) : Alike dir p p.normalize := by
  have hs : ∀ bs ∈ (pieces p.bytes).tail, separator ∉ bs := fun bs hb =>
    separator_not_mem_of_mem_pieces (List.mem_of_mem_tail hb)
  obtain ⟨names, hn, ha⟩ := @exists_alike_names dir [] nofun _ hs
  rw [List.nil_append, spelled_pieces h, spelled_names] at ha
  rw [ha.normalize_eq h (isAbsolute_rooted names), normalize_rooted hn]
  exact ha

/-- **Respellings lead to every other spelling**: paths that have the same absolute normal form come
from each other by respellings. -/
theorem alike_iff (hdir : dir.isAbsolute = true) :
    Alike dir p q ↔ absoluteFrom dir p = absoluteFrom dir q := by
  refine ⟨Alike.absoluteFrom_eq, fun h => ?_⟩
  have hself (p : Path) : Alike dir p (absoluteFrom dir p) := by
    rw [absoluteFrom]
    split_ifs with hp
    · exact alike_normalize dir hp
    · have hrel : p.isAbsolute = false := by simpa using hp
      exact .trans _ _ _ (.symm _ _ (.rel _ _ (.relative hdir hrel)))
        (alike_normalize dir (isAbsolute_join hdir p))
  exact .trans _ _ _ (hself p) (h ▸ .symm _ _ (hself q))

end Path

end ToolRelay
