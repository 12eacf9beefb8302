import Mathlib.Tactic.SplitIfs
import ToolRelay.Uri.File

/-!
# URIs and their schemes

A text that begins with a scheme and a colon (`Uri.Schemed`) is taken for a URI of that scheme.  It
may still be no URI: what stands where the host belongs can be flawed (`Uri.Refused`).

* `Uri.scheme_of_parse` : a URI that is read has the scheme that its text begins with;
* `Uri.parse_eq_error_iff` : a text is no URI if it has no scheme, or where its host is refused;
* `Uri.parse_eq_noScheme_iff` : which of the two it is can be told from the flaw.
-/

namespace ToolRelay

namespace Uri

variable {k : SchemeKind} {w : String} {scheme rest cs : List Char} {flaw : Flaw} {u : Uri}

/-- A scheme of at least two characters. -/
def IsScheme (scheme : List Char) : Prop :=
  ∃ c more, scheme = c :: more ∧ more ≠ [] ∧ isLetter c = true ∧ ∀ d ∈ more, inScheme d = true

/-- A text that begins with a scheme and a colon. -/
def Schemed (w : String) : Prop := ∃ scheme rest, IsScheme scheme ∧ w.toList = scheme ++ ':' :: rest

/-! ### The scheme of a text -/

theorem trim_append_cons {xs : List Char} {y : Char} (hxs : ∀ x ∈ xs, isMargin x = false)
    (hy : isMargin y = false) (ys : List Char) :
    ∃ rest, trim (xs ++ y :: ys) = xs ++ y :: rest := by
  have hstart : (xs ++ y :: ys).dropWhile isMargin = xs ++ y :: ys := by
    cases xs with
    | nil => simp [hy]
    | cons x xs => simp [hxs x (List.mem_cons_self ..)]
  have hturned : (xs ++ y :: ys).reverse = ys.reverse ++ y :: xs.reverse := by simp
  have hkeep : (y :: xs.reverse).dropWhile isMargin = y :: xs.reverse := by simp [hy]
  rw [trim, hstart, hturned, List.dropWhile_append, hkeep]
  split_ifs
  · exact ⟨[], by simp⟩
  · exact ⟨(ys.reverse.dropWhile isMargin).reverse, by simp⟩

/-- Neither margins nor dropped characters can stand in a scheme. -/
theorem toNat_of_inScheme {c : Char} (h : inScheme c = true) : 0x20 < c.toNat := by
  have hlow : ∀ n ≤ 0x20, inScheme (Char.ofNat n) = false := by decide
  refine Nat.lt_of_not_le fun hle => ?_
  have hc := hlow c.toNat hle
  rw [Char.ofNat_toNat, h] at hc
  contradiction

theorem isMargin_of_inScheme {c : Char} (h : inScheme c = true) : isMargin c = false :=
  decide_eq_false (Nat.not_le.2 (toNat_of_inScheme h))

theorem isDropped_of_inScheme {c : Char} (h : inScheme c = true) : isDropped c = false := by
  have hc := toNat_of_inScheme h
  refine Bool.eq_false_iff.2 fun hdropped => ?_
  simp only [isDropped, Bool.or_eq_true, beq_iff_eq] at hdropped
  obtain (rfl | rfl) | rfl := hdropped <;> revert hc <;> decide

theorem IsScheme.inScheme (h : IsScheme scheme) : ∀ c ∈ scheme, inScheme c = true := by
  obtain ⟨c, more, rfl, -, hc, hmore⟩ := h
  exact List.forall_mem_cons.2 ⟨by simp [Uri.inScheme, hc], hmore⟩

theorem cutScheme_append (h : IsScheme scheme) (rest : List Char) :
    cutScheme (scheme ++ ':' :: rest) = some (scheme.map Char.toLower, rest) := by
  have hcut : cutAt (fun c => !Uri.inScheme c && !isDropped c) (scheme ++ ':' :: rest) =
      (scheme, ':' :: rest) := by
    have hin : ∀ c ∈ scheme, (!(!Uri.inScheme c && !isDropped c)) = true := fun c hc => by
      rw [h.inScheme c hc]
      rfl
    have hcolon : (!(!Uri.inScheme ':' && !isDropped ':')) = false := by decide
    rw [cutAt, List.takeWhile_append_of_pos hin, List.dropWhile_append_of_pos hin,
      List.takeWhile_cons_of_neg (by simp [hcolon]), List.dropWhile_cons_of_neg (by simp [hcolon]),
      List.append_nil]
  have hrelevant : relevant scheme = scheme :=
    List.filter_eq_self.2 fun c hc => by rw [isDropped_of_inScheme (h.inScheme c hc)]; rfl
  obtain ⟨c, more, rfl, -, hc, -⟩ := h
  rw [cutScheme, hcut]
  simp only [hrelevant, hc, if_true]

/-- The scheme that a text begins with is the one that is read. -/
theorem Schemed.exists_cutScheme (h : Schemed w) :
    ∃ scheme rest, IsScheme scheme ∧
      cutScheme (trim w.toList) = some (scheme.map Char.toLower, rest) := by
  obtain ⟨scheme, rest, hscheme, hw⟩ := h
  have hmargin : ∀ c ∈ scheme, isMargin c = false := fun c hc =>
    isMargin_of_inScheme (hscheme.inScheme c hc)
  have hcolon : isMargin ':' = false := by decide
  obtain ⟨rest', hrest⟩ := trim_append_cons hmargin hcolon rest
  exact ⟨scheme, rest', hscheme, by rw [hw, hrest, cutScheme_append hscheme]⟩

theorem IsScheme.one_lt_length (h : IsScheme scheme) : 1 < (scheme.map Char.toLower).length := by
  obtain ⟨c, more, rfl, hmore, -⟩ := h
  have hpos := List.length_pos_iff.2 hmore
  simp only [List.map_cons, List.length_cons, List.length_map]
  omega

/-! ### Flawed hosts -/

/-- What comes after the two slashes of the URI of a file, if there are two. -/
def afterSlashes? (cs : List Char) : Option (List Char) := do
  let (a, rest) ← next? cs
  let (b, more) ← next? rest
  if isSlash .file a = true ∧ isSlash .file b = true then some more else none

/-- What comes after a scheme is refused for a flaw. -/
inductive Refused : SchemeKind → List Char → Flaw → Prop where
  /-- Between the slashes of the URI of a file stands neither a host nor a drive letter. -/
  | file {rest more host : List Char} {flaw : Flaw} (hslashes : afterSlashes? rest = some more)
      (hhost : relevant (cutAt (endsAuthority .file) more).1 = host)
      (htaken : isDrive host = false ∧ host ≠ []) (h : Host.ofText host = .error flaw) :
      Refused .file rest flaw
  /-- There is no authority after a scheme that everybody knows. -/
  | known {socket : Nat} {rest : List Char} {flaw : Flaw}
      (h : readAuthority (.known socket) ((relevant rest).dropWhile (isSlash (.known socket))) =
        .error flaw) : Refused (.known socket) rest flaw
  /-- There is no authority after the slashes of another scheme. -/
  | other {rest cs : List Char} {flaw : Flaw} (hslashes : relevant rest = '/' :: '/' :: cs)
      (h : readAuthority .other cs = .error flaw) : Refused .other rest flaw

/-- What is read is a URI of the scheme where nothing is flawed, else the flaw. -/
def Reads (scheme : List Char) (flawed : Flaw → Prop) : Except Flaw Uri → Prop
  | .ok u => u.scheme = scheme ∧ ∀ flaw, ¬ flawed flaw
  | .error flaw => ∀ flaw', flawed flaw' ↔ flaw' = flaw

theorem Reads.congr {P Q : Flaw → Prop} {r : Except Flaw Uri} (h : Reads scheme P r)
    (hiff : ∀ flaw, P flaw ↔ Q flaw) : Reads scheme Q r := by
  obtain rfl : P = Q := funext fun flaw => propext (hiff flaw)
  exact h

theorem reads_ok {P : Flaw → Prop} (h : u.scheme = scheme) (hP : ∀ flaw, ¬ P flaw) :
    Reads scheme P (.ok u) := ⟨h, hP⟩

/-- Where one part can be flawed and the rest cannot. -/
theorem reads_bind {α : Type} {x : Except Flaw α} {f : α → Except Flaw Uri}
    (hf : ∀ a, ∃ u, f a = .ok u ∧ u.scheme = scheme) :
    Reads scheme (fun flaw => x = .error flaw) (do f (← x)) := by
  cases x with
  | error flaw => exact fun flaw' => ⟨fun h => (Except.error.inj h).symm, fun h => h ▸ rfl⟩
  | ok a =>
    obtain ⟨u, hu, hscheme⟩ := hf a
    have hread : (do f (← (.ok a : Except Flaw α))) = .ok u := hu
    rw [hread]
    exact ⟨hscheme, nofun⟩

theorem reads_readWithAuthority (k : SchemeKind) (scheme cs : List Char) :
    Reads scheme (fun flaw => readAuthority k cs = .error flaw) (readWithAuthority k scheme cs) :=
  reads_bind fun _ => ⟨_, rfl, rfl⟩

theorem reads_readFileHost (scheme cs : List Char) :
    let host := relevant (cutAt (endsAuthority .file) cs).1
    Reads scheme (fun flaw => (isDrive host = false ∧ host ≠ []) ∧ Host.ofText host = .error flaw)
      (readFileHost scheme cs) := by
  rw [readFileHost]
  generalize cutAt (endsAuthority .file) cs = parts
  obtain ⟨before, after⟩ := parts
  dsimp only
  generalize relevant before = host
  by_cases hdrive : isDrive host = true
  · rw [if_pos hdrive]
    exact reads_ok rfl fun _ h => by simp [hdrive] at h
  by_cases hnil : host = []
  · rw [if_neg hdrive, if_pos hnil]
    exact reads_ok rfl fun _ h => h.1.2 hnil
  rw [if_neg hdrive, if_neg hnil]
  refine Reads.congr (reads_bind fun found => ?_) fun flaw => ?_
  · by_cases hlocal : found = .name "localhost".toList
    · rw [if_pos hlocal]
      exact ⟨_, rfl, rfl⟩
    · rw [if_neg hlocal]
      exact ⟨_, rfl, rfl⟩
  · rw [and_iff_right ⟨Bool.eq_false_iff.2 hdrive, hnil⟩]

theorem readFile_of_slashes {more : List Char} (h : afterSlashes? cs = some more) :
    readFile scheme cs = readFileHost scheme more := by
  obtain ⟨⟨a, after⟩, ha, h⟩ := Option.bind_eq_some_iff.1 h
  obtain ⟨⟨b, more'⟩, hb, h⟩ := Option.bind_eq_some_iff.1 h
  dsimp only at h
  split_ifs at h with hslashes
  obtain rfl := Option.some.inj h
  simp only [readFile, ha, hb, hslashes.1, hslashes.2, if_true]

theorem exists_readFile_of_none (scheme : List Char) (h : afterSlashes? cs = none) :
    ∃ rooted, readFile scheme cs = .ok (readLocal scheme rooted cs) := by
  rw [readFile]
  cases ha : next? cs with
  | none => exact ⟨_, rfl⟩
  | some first =>
    obtain ⟨a, after⟩ := first
    dsimp only
    split_ifs with hfirst
    · cases hb : next? after with
      | none => exact ⟨_, rfl⟩
      | some second =>
        obtain ⟨b, more⟩ := second
        dsimp only
        split_ifs with hsecond
        · simp [afterSlashes?, ha, hb, hfirst, hsecond] at h
        · exact ⟨_, rfl⟩
    · exact ⟨_, rfl⟩

theorem reads_readFile (scheme cs : List Char) :
    Reads scheme (Refused .file cs) (readFile scheme cs) := by
  cases hslashes : afterSlashes? cs with
  | none =>
    obtain ⟨rooted, hread⟩ := exists_readFile_of_none scheme hslashes
    rw [hread]
    exact reads_ok rfl fun _ h => by cases h with | file h => rw [hslashes] at h; contradiction
  | some more =>
    rw [readFile_of_slashes hslashes]
    refine (reads_readFileHost scheme more).congr fun flaw => ⟨fun h => ?_, fun h => ?_⟩
    · exact .file hslashes rfl h.1 h.2
    · cases h with
      | file heq hhost htaken h =>
        obtain rfl := Option.some.inj (hslashes.symm.trans heq)
        rw [hhost]
        exact ⟨htaken, h⟩

/-- What is read of a text with a scheme. -/
theorem reads_parse (h : cutScheme (trim w.toList) = some (scheme, rest)) :
    Reads scheme (Refused (.ofScheme scheme) rest) (parse w) := by
  rw [parse, h]
  dsimp only
  cases SchemeKind.ofScheme scheme with
  | file => exact reads_readFile scheme rest
  | known socket =>
    exact (reads_readWithAuthority _ scheme _).congr fun flaw =>
      ⟨.known, fun | .known h => h⟩
  | other =>
    dsimp only
    split
    next cs hslashes =>
      exact (reads_readWithAuthority _ scheme _).congr fun flaw =>
        ⟨.other hslashes, fun | .other heq h => by rw [hslashes] at heq; cases heq; exact h⟩
    next hother =>
      exact reads_ok rfl fun flaw h => by cases h with | other heq h => exact hother _ heq

theorem Reads.eq_error_iff {P : Flaw → Prop} {r : Except Flaw Uri} (h : Reads scheme P r) :
    r = .error flaw ↔ P flaw := by
  cases r with
  | ok u => exact ⟨nofun, fun hflaw => absurd hflaw (h.2 flaw)⟩
  | error found => rw [h flaw, Except.error.injEq, eq_comm]

theorem scheme_of_parse (h : cutScheme (trim w.toList) = some (scheme, rest))
    (hu : parse w = .ok u) : u.scheme = scheme := by
  have hreads := reads_parse h
  rw [hu] at hreads
  exact hreads.1

/-- **A text is no URI** if it has no scheme, or if what stands where its host belongs is
refused. -/
theorem parse_eq_error_iff :
    parse w = .error flaw ↔
      (cutScheme (trim w.toList) = none ∧ flaw = .noScheme) ∨
      ∃ scheme rest, cutScheme (trim w.toList) = some (scheme, rest) ∧
        Refused (.ofScheme scheme) rest flaw := by
  cases hcut : cutScheme (trim w.toList) with
  | none =>
    rw [parse, hcut]
    simp [eq_comm]
  | some parts =>
    obtain ⟨scheme, rest⟩ := parts
    rw [(reads_parse hcut).eq_error_iff]
    constructor
    · exact fun h => .inr ⟨scheme, rest, rfl, h⟩
    · rintro (⟨h, -⟩ | ⟨scheme', rest', h, hrefused⟩)
      · contradiction
      · cases h
        exact hrefused

/-! ### Which flaws a host has -/

theorem bracketed?_ne_noScheme : bracketed? cs ≠ some (.error .noScheme) := by
  intro h
  unfold bracketed? at h
  split at h
  · split_ifs at h
    · split at h <;> cases h
    · cases h
  · cases h

theorem ofText_ne_noScheme : Host.ofText cs ≠ .error .noScheme := by
  intro h
  rw [Host.ofText] at h
  split at h
  next answer hanswer => exact bracketed?_ne_noScheme (hanswer.trans (congrArg some h))
  next =>
    split at h
    · cases h
    · cases h
    · split_ifs at h
      split at h <;> cases h

theorem ofPlainText_ne_noScheme : Host.ofPlainText cs ≠ .error .noScheme := by
  intro h
  rw [Host.ofPlainText] at h
  split at h
  next answer hanswer => exact bracketed?_ne_noScheme (hanswer.trans (congrArg some h))
  next => split_ifs at h; cases h

theorem readSocket_ne_noScheme : readSocket k cs ≠ .error .noScheme := by
  intro h
  unfold readSocket at h
  dsimp only at h
  split_ifs at h <;> cases h

theorem bind_ne_noScheme {α β : Type} {x : Except Flaw α} {f : α → Except Flaw β}
    (hx : x ≠ .error .noScheme) (hf : ∀ a, f a ≠ .error .noScheme) :
    (do f (← x)) ≠ .error .noScheme := by
  cases x with
  | error flaw => exact fun h => hx (congrArg Except.error (Except.error.inj h))
  | ok a => exact hf a

theorem readAuthority_ne_noScheme : readAuthority k cs ≠ .error .noScheme := by
  unfold readAuthority
  generalize cutAt (endsAuthority k) cs = parts
  obtain ⟨authority, after⟩ := parts
  dsimp -zeta only
  extract_lets readHost
  -- whatever the name and the password are, the host comes next
  have hhost : ∀ parts, readHost parts ≠ .error .noScheme := by
    rintro ⟨user, rest⟩
    dsimp only [readHost]
    generalize cutSocket rest = parts
    obtain ⟨host, socket⟩ := parts
    dsimp -zeta only
    split_ifs
    · nofun
    · nofun
    · exact bind_ne_noScheme ofText_ne_noScheme fun host =>
        bind_ne_noScheme readSocket_ne_noScheme nofun
    · exact bind_ne_noScheme ofPlainText_ne_noScheme fun host =>
        bind_ne_noScheme readSocket_ne_noScheme nofun
  split
  · exact hhost _
  · split_ifs
    · nofun
    · exact hhost _
  · exact hhost _

theorem Refused.ne_noScheme (h : Refused k rest flaw) : flaw ≠ .noScheme := by
  rintro rfl
  cases h with
  | file _ _ _ h => exact ofText_ne_noScheme h
  | known h => exact readAuthority_ne_noScheme h
  | other _ h => exact readAuthority_ne_noScheme h

/-- A text without a scheme is told by its flaw. -/
theorem parse_eq_noScheme_iff :
    parse w = .error .noScheme ↔ cutScheme (trim w.toList) = none := by
  rw [parse_eq_error_iff, and_iff_left rfl, or_iff_left]
  rintro ⟨scheme, rest, -, h⟩
  exact h.ne_noScheme rfl

end Uri

end ToolRelay
