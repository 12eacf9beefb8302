import Mathlib.Data.List.TakeWhile
import ToolRelay.Proofs.Path.Respelling
import ToolRelay.Proofs.Uri.Scheme

/-!
# The URI of a path leads back to the path

In the URI of a path each component is a segment, in which only those characters stand as they are
that say nothing else there (`Percent.Kept`); every other octet is written by its number.  So
nothing that a URI is read by is met inside a segment, no segment is taken for `.` or `..`
(`Uri.Plain`), and decoding gives the octets back.

* `Percent.decode_encoded` : what is encoded for a segment is decoded to itself;
* `Uri.readPath_plain` : segments that say nothing but a name are kept as they are;
* `Uri.parse_spell_ofPath` : the URI of a path in normal form is read back as it is;
* `Uri.toPath?_ofPath` : it names the path, with a separator at its end after a drive letter;
* `Uri.exists_ofWorkspace?_nameOf` : which is the path itself as soon as it is made absolute.
-/

namespace ToolRelay

/-! ### Encoded octets -/

namespace Percent

variable {b : UInt8} {c : Char}

/-- A character that stands in a segment as it is. -/
def Kept (c : Char) : Prop := c.toNat < 0x80 ∧ inPath c = false ∧ c ≠ '/' ∧ c ≠ '\\'

instance : DecidablePred Kept := fun c =>
  inferInstanceAs (Decidable (c.toNat < 0x80 ∧ inPath c = false ∧ c ≠ '/' ∧ c ≠ '\\'))

theorem kept_digit : ∀ n < 16, Kept (digit n) := by decide

/-- An octet is written as a character that is kept and is no `%`, or by its number. -/
theorem encodeOctet_cases (b : UInt8) :
    (encodeOctet inSegment b = [Char.ofNat b.toNat] ∧ b.toNat < 0x80 ∧
      Kept (Char.ofNat b.toNat) ∧ b ≠ 0x25) ∨
    (encodeOctet inSegment b = octet b ∧ b ≠ Path.dot) := by
  rw [encodeOctet]
  split_ifs with h
  · obtain ⟨hb, hset⟩ := h
    have hchar : (Char.ofNat b.toNat).toNat = b.toNat :=
      Utf8.toNat_ofNat_of_valid (.inl (by omega))
    refine .inl ⟨rfl, hb, ?_⟩
    simp only [inSegment, Bool.or_eq_false_iff, beq_eq_false_iff_ne] at hset
    obtain ⟨⟨⟨hpath, hslash⟩, hpercent⟩, hback⟩ := hset
    refine ⟨⟨hchar.symm ▸ hb, hpath, hslash, hback⟩, ?_⟩
    rintro rfl
    exact hpercent rfl
  · refine .inr ⟨rfl, ?_⟩
    rintro rfl
    exact h (by decide)

theorem kept_of_mem_encodeOctet (h : c ∈ encodeOctet inSegment b) : Kept c := by
  have hb : b.toNat < 256 := b.toNat_lt
  obtain ⟨heq, -, hkept, -⟩ | ⟨heq, -⟩ := encodeOctet_cases b
  · rw [heq, List.mem_singleton] at h
    exact h ▸ hkept
  · rw [heq, octet] at h
    simp only [List.mem_cons, List.not_mem_nil, or_false] at h
    obtain rfl | rfl | rfl := h
    · decide
    · exact kept_digit _ (by omega)
    · exact kept_digit _ (by omega)

/-- What is kept is no blank and separates nothing. -/
theorem Kept.harmless (h : Kept c) : Uri.isMargin c = false ∧ Uri.isDropped c = false ∧
    Uri.isSlash .file c = false ∧ c ≠ '?' ∧ c ≠ '#' := by
  have hall : ∀ n < 0x80, Kept (Char.ofNat n) →
      Uri.isMargin (Char.ofNat n) = false ∧ Uri.isDropped (Char.ofNat n) = false ∧
        Uri.isSlash .file (Char.ofNat n) = false ∧ Char.ofNat n ≠ '?' ∧ Char.ofNat n ≠ '#' := by
    decide
  have hc := hall c.toNat h.1
  rw [Char.ofNat_toNat] at hc
  exact hc h

/-! ### Decoding -/

theorem decode_cons_of_ne (h : b ≠ 0x25) (rest : Bytes) :
    decode (b :: rest) = b :: decode rest := by
  match rest with
  | [] => rfl
  | [_] => rfl
  | _ :: _ :: _ => rw [decode, if_neg h]

theorem digitValue?_digit : ∀ n < 16, String.utf8EncodeChar (digit n) =
    [UInt8.ofNat (digit n).toNat] ∧ digitValue? (UInt8.ofNat (digit n).toNat) = some n := by
  decide

theorem decode_octet (b : UInt8) (rest : Bytes) :
    decode ((octet b).flatMap String.utf8EncodeChar ++ rest) = b :: decode rest := by
  have hb : b.toNat < 256 := b.toNat_lt
  obtain ⟨hhigh, hhigh'⟩ := digitValue?_digit (b.toNat / 16) (by omega)
  obtain ⟨hlow, hlow'⟩ := digitValue?_digit (b.toNat % 16) (by omega)
  have hpercent : String.utf8EncodeChar '%' = [0x25] := by decide
  rw [octet, List.flatMap_cons, List.flatMap_cons, List.flatMap_singleton, hpercent, hhigh, hlow]
  simp only [List.cons_append, List.nil_append]
  rw [decode, if_pos rfl]
  simp only [hhigh', hlow', Nat.div_add_mod', UInt8.ofNat_toNat]

theorem decode_encodeOctet (b : UInt8) (rest : Bytes) :
    decode ((encodeOctet inSegment b).flatMap String.utf8EncodeChar ++ rest) =
      b :: decode rest := by
  obtain ⟨heq, hlt, -, hne⟩ | ⟨heq, -⟩ := encodeOctet_cases b
  · rw [heq, List.flatMap_singleton, Utf8.encodeChar_one (by omega), List.singleton_append,
      decode_cons_of_ne hne]
  · rw [heq, decode_octet]

/-- **What is encoded is decoded to itself**, whatever the octets are. -/
theorem decode_encoded (bs rest : Bytes) :
    decode ((bs.flatMap (encodeOctet inSegment)).flatMap String.utf8EncodeChar ++ rest) =
      bs ++ decode rest := by
  induction bs with
  | nil => rfl
  | cons b bs ih =>
    rw [List.flatMap_cons, List.flatMap_append, List.append_assoc, decode_encodeOctet, ih]
    rfl

end Percent

namespace Uri

open Percent

variable {segment : List Char} {segments : List (List Char)} {c : Char} {bs : Bytes}

/-! ### Segments that are names -/

/-- A segment that is kept as it is, and goes down. -/
def Plain (segment : List Char) : Prop := (∀ c ∈ segment, Kept c) ∧ Segment.of segment = .down

theorem digit_eq_iff : ∀ n < 16, digit n ≠ 'e' ∧ (digit n = '2' → n = 2) ∧
    (digit n = 'E' → n = 14) := by
  decide

/-- An octet other than `.` is written as no dot. -/
theorem dots?_encodeOctet_append {b : UInt8} (h : b ≠ Path.dot) (rest : List Char) :
    dots? (encodeOctet inSegment b ++ rest) = none := by
  have hb : b.toNat < 256 := b.toNat_lt
  obtain ⟨heq, hlt, -, hne⟩ | ⟨heq, -⟩ := encodeOctet_cases b
  · have hchar {n : Nat} (hn : n < 0x80) (hc : Char.ofNat b.toNat = Char.ofNat n) :
        b.toNat = n := by
      have hnat := congrArg Char.toNat hc
      rwa [Utf8.toNat_ofNat_of_valid (.inl (by omega)),
        Utf8.toNat_ofNat_of_valid (.inl (by omega))] at hnat
    rw [heq, List.singleton_append]
    unfold dots?
    split
    · contradiction
    · rename_i hcons
      exact absurd (UInt8.toNat_inj.1 (hchar (n := 0x25) (by decide) (List.cons.inj hcons).1)) hne
    · rename_i hcons
      exact absurd (UInt8.toNat_inj.1 (hchar (n := 0x2E) (by decide) (List.cons.inj hcons).1)) h
    · rfl
  · rw [heq, octet, List.cons_append, List.cons_append, List.cons_append, List.nil_append]
    obtain ⟨-, hhigh, -⟩ := digit_eq_iff (b.toNat / 16) (by omega)
    obtain ⟨he, -, hlow⟩ := digit_eq_iff (b.toNat % 16) (by omega)
    unfold dots?
    split
    · contradiction
    · rename_i e rest' hcons
      obtain ⟨htwo, rfl, rfl⟩ : digit (b.toNat / 16) = '2' ∧ digit (b.toNat % 16) = e ∧
          rest = rest' := by simpa using hcons
      rw [if_neg]
      rintro (hsmall | hlarge)
      · exact he hsmall
      · have hnat : b.toNat = 0x2E := by
          have := hhigh htwo
          have := hlow hlarge
          omega
        exact h (UInt8.toNat_inj.1 hnat)
    · rename_i hcons
      exact absurd (List.cons.inj hcons).1 (by decide)
    · rfl

/-- Nothing but dots is read as dots. -/
theorem eq_replicate_of_dots? {n : Nat}
    (h : dots? (bs.flatMap (encodeOctet inSegment)) = some n) :
    bs = List.replicate n Path.dot := by
  induction bs generalizing n with
  | nil =>
    obtain rfl := Option.some.inj h
    rfl
  | cons b bs ih =>
    rw [List.flatMap_cons] at h
    by_cases hb : b = Path.dot
    · subst hb
      have hdot : encodeOctet inSegment Path.dot = ['.'] := by decide
      rw [hdot, List.singleton_append] at h
      obtain ⟨m, hm, rfl⟩ := Option.map_eq_some_iff.1 h
      rw [ih hm, List.replicate_succ]
    · rw [dots?_encodeOctet_append hb] at h
      contradiction

/-- A name is written as a segment that is kept and goes down. -/
theorem plain_encodeComponent (h : Path.IsName bs) : Plain (encodeComponent (.name bs)) := by
  refine ⟨fun c hc => ?_, ?_⟩
  · obtain ⟨b, -, hb⟩ := List.mem_flatMap.1 hc
    exact kept_of_mem_encodeOctet hb
  · rw [Segment.of]
    split
    · rename_i hdots
      exact absurd (eq_replicate_of_dots? hdots) h.2.2.1
    · rename_i hdots
      exact absurd (eq_replicate_of_dots? hdots) h.2.2.2
    · rfl

/-! ### Reading the path -/

theorem relevant_of_kept {cs : List Char} (h : ∀ c ∈ cs, Kept c) : relevant cs = cs :=
  List.filter_eq_self.2 fun c hc => by rw [(h c hc).harmless.2.1]; rfl

theorem spellSegment_of_kept (h : ∀ c ∈ segment, Kept c) : spellSegment segment = segment := by
  rw [spellSegment, relevant_of_kept h]
  refine (List.flatMap_congr fun c hc => ?_).trans (List.flatMap_singleton' segment)
  exact if_pos ⟨(h c hc).1, (h c hc).2.1⟩

/-- A plain segment that is not the first one is entered. -/
theorem Trail.step_plain {t : Trail} (hrooted : t.rooted = true) (hdone : t.done ≠ [])
    (h : Plain segment) (slash : Bool) : t.step .file segment slash = t.enter segment slash := by
  obtain ⟨done, rooted, displaced⟩ := t
  obtain rfl : rooted = true := hrooted
  have hdone : done ≠ [] := hdone
  have hbroken : (⟨done, true, displaced⟩ : Trail).brokenDrive? .file segment = none :=
    if_neg fun hfirst => hdone hfirst.2.2
  rw [step, hbroken]
  simp only [spellSegment_of_kept h.1, if_true, h.2, hdone, false_and, and_false, if_false,
    decide_false, Bool.or_false]

theorem Trail.read_plain {t : Trail} (hrooted : t.rooted = true) (hdone : t.done ≠ [])
    (h : ∀ segment ∈ segments, Plain segment) :
    (t.read .file segments).1.spell ++ (t.read .file segments).2 =
      t.spell ++ List.intercalate ['/'] segments := by
  induction segments generalizing t with
  | nil => rfl
  | cons segment rest ih =>
    obtain ⟨hsegment, hrest⟩ := List.forall_mem_cons.1 h
    cases rest with
    | nil =>
      rw [read, step_plain hrooted hdone hsegment, List.intercalate_singleton]
      rfl
    | cons next rest =>
      have henter : (t.enter segment true).1.spell = t.spell ++ (segment ++ ['/']) := by
        simp [enter, spell, hrooted]
      rw [read, step_plain hrooted hdone hsegment, ih (t := (t.enter segment true).1) hrooted
        (List.cons_ne_nil _ _) hrest, henter, List.intercalate_cons_cons]
      · simp only [List.append_assoc]
      · exact List.cons_ne_nil _ _

/-- **Plain segments are read as they are written.** -/
theorem readPath_plain (h : ∀ segment ∈ segments, Plain segment)
    (hhead : (List.intercalate ['/'] segments).head? ≠ some '/') :
    (readPath .file true ('/' :: List.intercalate ['/'] segments)).1 =
      '/' :: List.intercalate ['/'] segments := by
  by_cases hnil : segments = []
  · subst hnil
    rfl
  have hpieces : Text.pieces (isSlash .file) ('/' :: List.intercalate ['/'] segments) =
      [] :: segments := by
    have hsplit := Text.splitOnAll_intercalate (p := isSlash .file) (x := '/') rfl
      (List.cons_ne_nil [] segments) <| List.forall_mem_cons.2
        ⟨nofun, fun segment hs c hc => ((h segment hs).1 c hc).harmless.2.2.1⟩
    obtain ⟨first, rest, rfl⟩ := List.exists_cons_of_ne_nil hnil
    exact hsplit
  have hfirst : (⟨[], true, false⟩ : Trail).read .file ([] :: segments) =
      (⟨[[]], true, false⟩ : Trail).read .file segments := by
    obtain ⟨first, rest, rfl⟩ := List.exists_cons_of_ne_nil hnil
    rfl
  have hread := Trail.read_plain (t := ⟨[[]], true, false⟩) rfl (List.cons_ne_nil _ _) h
  rw [readPath, hpieces, hfirst]
  dsimp only
  rw [if_pos rfl, hread]
  -- the slash that begins the path has been written twice
  have hspell : (⟨[[]], true, false⟩ : Trail).spell = ['/', '/'] := rfl
  rw [hspell]
  cases hpath : List.intercalate ['/'] segments with
  | nil => rfl
  | cons c cs =>
    rw [hpath] at hhead
    have hc : (c == '/') = false := by simpa using hhead
    simp [hc]

/-! ### The URI of a path -/

theorem flatMap_slash {cs : List Component} (hne : cs ≠ []) :
    cs.flatMap (fun c => '/' :: encodeComponent c) =
      '/' :: List.intercalate ['/'] (cs.map encodeComponent) := by
  induction cs with
  | nil => contradiction
  | cons c cs ih =>
    cases cs with
    | nil => simp
    | cons d cs =>
      rw [List.flatMap_cons, ih (List.cons_ne_nil _ _)]
      simp only [List.map_cons, List.intercalate_cons_cons, List.append_assoc, List.cons_append,
        List.nil_append]

theorem encodeComponents_eq (cs : List Component) :
    encodeComponents cs = '/' :: List.intercalate ['/'] (cs.map encodeComponent) := by
  rw [encodeComponents]
  split_ifs with h
  · subst h
    rfl
  · exact flatMap_slash h

/-- In a path stand what is kept and slashes. -/
theorem kept_or_slash (h : ∀ segment ∈ segments, Plain segment) :
    ∀ c ∈ List.intercalate ['/'] segments, Kept c ∨ c = '/' := by
  induction segments with
  | nil => nofun
  | cons segment rest ih =>
    obtain ⟨hsegment, hrest⟩ := List.forall_mem_cons.1 h
    cases rest with
    | nil =>
      rw [List.intercalate_singleton]
      exact fun c hc => .inl (hsegment.1 c hc)
    | cons next rest =>
      rw [List.intercalate_cons_cons, List.forall_mem_append, List.forall_mem_append]
      exact ⟨⟨fun c hc => .inl (hsegment.1 c hc), List.forall_mem_singleton.2 (.inr rfl)⟩, ih hrest⟩

/-- Names do not begin with a slash as they are written. -/
theorem head?_intercalate_ne {names : List Bytes} (h : ∀ bs ∈ names, Path.IsName bs) :
    (List.intercalate ['/'] (names.map fun bs => encodeComponent (.name bs))).head? ≠
      some '/' := by
  cases names with
  | nil => nofun
  | cons bs rest =>
    have hbs := h bs (List.mem_cons_self ..)
    have hne : encodeComponent (.name bs) ≠ [] := by
      obtain ⟨b, bs, rfl⟩ := List.exists_cons_of_ne_nil hbs.2.1
      obtain ⟨heq, -⟩ | ⟨heq, -⟩ := encodeOctet_cases b <;>
        simp [encodeComponent, Path.spell, heq, octet]
    obtain ⟨c, cs, hc⟩ := List.exists_cons_of_ne_nil hne
    have hslash : c ≠ '/' := ((plain_encodeComponent hbs).1 c (hc ▸ List.mem_cons_self ..)).2.2.1
    cases rest <;> simpa [hc] using hslash

theorem decode_intercalate (ps : List Bytes) :
    decode ((List.intercalate ['/'] (ps.map fun bs => encodeComponent (.name bs))).flatMap
      String.utf8EncodeChar) = List.intercalate [Path.separator] ps := by
  induction ps with
  | nil => rfl
  | cons bs ps ih =>
    cases ps with
    | nil =>
      have hbs := decode_encoded bs []
      rw [List.append_nil] at hbs
      simpa [encodeComponent, Path.spell, decode] using hbs
    | cons next ps =>
      have hslash : String.utf8EncodeChar '/' = [Path.separator] := by decide
      rw [List.map_cons] at ih ⊢
      rw [List.map_cons, List.intercalate_cons_cons, List.append_assoc, List.flatMap_append,
        encodeComponent, Path.spell, decode_encoded, List.flatMap_append, List.flatMap_singleton,
        hslash, List.singleton_append, decode_cons_of_ne (by decide), ih,
        List.intercalate_cons_cons, List.append_assoc, List.singleton_append]

theorem trim_of_forall {cs : List Char} (h : ∀ c ∈ cs, isMargin c = false) : trim cs = cs := by
  have hkeep {ds : List Char} (hds : ∀ c ∈ ds, isMargin c = false) :
      ds.dropWhile isMargin = ds := by
    cases ds with
    | nil => rfl
    | cons d ds => simp [hds d (List.mem_cons_self ..)]
  rw [trim, hkeep h, hkeep fun c hc => h c (List.mem_reverse.1 hc), List.reverse_reverse]

theorem isScheme_file : IsScheme "file".toList :=
  ⟨'f', ['i', 'l', 'e'], rfl, List.cons_ne_nil _ _, by decide, List.all_eq_true.1 (by decide)⟩

/-- What follows the scheme of a URI with an empty host and plain segments. -/
theorem readFile_of_path {scheme path : List Char}
    (hpath : (readPath .file true ('/' :: path)).1 = '/' :: path)
    (hplain : ∀ c ∈ path, c ≠ '?' ∧ c ≠ '#') :
    readFile scheme ('/' :: '/' :: '/' :: path) =
      .ok ⟨scheme, some ⟨[], none, none⟩, '/' :: path, none, none⟩ := by
  have hcut : cutPath ('/' :: path) = ('/' :: path, []) := by
    have hall : ∀ c ∈ '/' :: path, (!(c == '?' || c == '#')) = true :=
      List.forall_mem_cons.2 ⟨rfl, fun c hc => by simp [hplain c hc]⟩
    rw [cutPath, cutAt, List.takeWhile_eq_self_iff.2 hall, List.dropWhile_eq_nil_iff.2 hall]
  have hhost : readFileHost scheme ('/' :: path) = .ok (readLocal scheme true ('/' :: path)) := rfl
  rw [readFile_of_slashes rfl, hhost, readLocal, hcut]
  simp only [hpath]
  rfl

variable {p : Path}

/-- The names of an absolute path in normal form are written as plain segments. -/
theorem exists_names (ha : p.isAbsolute = true) (hn : p.normalize = p) :
    ∃ names, (∀ bs ∈ names, Path.IsName bs) ∧ p = .rooted names ∧
      (ofPath p).path = '/' :: List.intercalate ['/']
        (names.map fun bs => encodeComponent (.name bs)) := by
  obtain ⟨names, hnames, hp⟩ := Path.exists_rooted ha
  rw [hn] at hp
  refine ⟨names, hnames, hp, ?_⟩
  rw [ofPath, hp, Path.components_rooted hnames]
  dsimp only
  rw [encodeComponents_eq, List.tail_cons, List.map_map]
  rfl

/-- **The URI of an absolute path in normal form is read back as it is.** -/
theorem parse_spell_ofPath (ha : p.isAbsolute = true) (hn : p.normalize = p) :
    parse (ofPath p).spell = .ok (ofPath p) := by
  obtain ⟨names, hnames, -, hpath⟩ := exists_names ha hn
  have hplain : ∀ segment ∈ names.map fun bs => encodeComponent (.name bs), Plain segment :=
    List.forall_mem_map.2 fun bs hbs => plain_encodeComponent (hnames bs hbs)
  have hread := readPath_plain hplain (head?_intercalate_ne hnames)
  have hchars := kept_or_slash hplain
  generalize List.intercalate ['/'] (names.map fun bs => encodeComponent (.name bs)) = path
    at hpath hread hchars
  have hspell : (ofPath p).spell.toList = "file".toList ++ ':' :: '/' :: '/' :: '/' :: path := by
    have heq : (ofPath p).spellChars = "file".toList ++ ':' :: '/' :: '/' :: (ofPath p).path := by
      simp [spellChars, ofPath, Authority.spell, spellPath]
    rw [spell, heq, String.toList_ofList, hpath]
  have htrim : trim (ofPath p).spell.toList = (ofPath p).spell.toList := by
    have hbefore : ∀ c ∈ "file".toList ++ [':', '/', '/', '/'], isMargin c = false := by
      simp [isMargin]
    have hafter : ∀ c ∈ path, isMargin c = false := fun c hc => by
      obtain hkept | rfl := hchars c hc
      · exact hkept.harmless.1
      · decide
    have hall := List.forall_mem_append.2 ⟨hbefore, hafter⟩
    refine trim_of_forall ?_
    rw [hspell]
    simpa only [List.append_assoc, List.cons_append, List.nil_append] using hall
  have hlower : "file".toList.map Char.toLower = "file".toList := by decide
  have hkind : SchemeKind.ofScheme "file".toList = .file := by decide
  rw [parse, htrim, hspell, cutScheme_append isScheme_file, hlower]
  dsimp only
  rw [hkind]
  dsimp only
  rw [readFile_of_path hread fun c hc => ?_, ← hpath]
  · rfl
  · obtain hkept | rfl := hchars c hc
    · exact hkept.harmless.2.2.2
    · decide

/-- **The URI of a path names the path**, with a separator behind a drive letter at its end. -/
theorem toPath?_ofPath (ha : p.isAbsolute = true) (hn : p.normalize = p) :
    (ofPath p).toPath? =
      some ⟨if endsInDrive p.bytes then p.bytes ++ [Path.separator] else p.bytes⟩ := by
  obtain ⟨names, hnames, hp, hpath⟩ := exists_names ha hn
  have hslash : String.utf8EncodeChar '/' = [Path.separator] := by decide
  have hrooted : p.bytes = Path.separator :: List.intercalate [Path.separator]
      ((names.map Component.name).map Path.spell) := congrArg Path.bytes hp
  have hnames : (names.map Component.name).map Path.spell = names := by
    rw [List.map_map]
    exact List.map_id names
  have hbytes : decode ((ofPath p).path.flatMap String.utf8EncodeChar) = p.bytes := by
    rw [hpath, List.flatMap_cons, hslash, List.singleton_append, decode_cons_of_ne (by decide),
      decode_intercalate, hrooted, hnames]
  have hfile : (ofPath p).isLocal = true ∧ (ofPath p).path.head? = some '/' :=
    ⟨rfl, by rw [hpath]; rfl⟩
  rw [toPath?, if_pos hfile]
  simp only [hbytes]

theorem nameOf_of_isAbsolute (ha : p.isAbsolute = true) : nameOf p = (ofPath p).spell := if_pos ha

end Uri

namespace Path

variable {p : Path}

/-- A separator at the end of a path says nothing. -/
theorem normalize_append_separator (ha : p.isAbsolute = true) :
    normalize ⟨p.bytes ++ [separator]⟩ = p.normalize := by
  have habs : isAbsolute ⟨p.bytes ++ [separator]⟩ = p.isAbsolute := by
    obtain ⟨bs, hbs⟩ := List.head?_eq_some_iff.1 (eq_of_beq ha)
    rw [isAbsolute, isAbsolute, hbs]
    rfl
  rw [normalize_eq, normalize_eq, habs, body_append_cons, body_nil, List.append_nil]

/-- **The name of a path leads back to it**, as soon as the path that is named is made absolute. -/
theorem exists_ofWorkspace?_nameOf (ha : p.isAbsolute = true) (hn : p.normalize = p) :
    ∃ q, ofWorkspace? (Uri.nameOf p) = some q ∧ (Uri.ofPath p).toPath? = some q ∧
      q.isAbsolute = true ∧ q.normalize = p := by
  have hpath := Uri.toPath?_ofPath ha hn
  have hfile : (Uri.ofPath p).scheme = "file".toList := rfl
  refine ⟨_, ?_, hpath, ?_, ?_⟩
  · rw [ofWorkspace?, Uri.nameOf_of_isAbsolute ha, Uri.parse_spell_ofPath ha hn]
    dsimp only
    rw [if_pos hfile, hpath]
  · obtain ⟨bs, hbs⟩ := List.head?_eq_some_iff.1 (eq_of_beq ha)
    rw [isAbsolute, hbs]
    split_ifs <;> rfl
  · split_ifs
    · rw [normalize_append_separator ha, hn]
    · exact hn

/-- No two absolute paths in normal form have the same name. -/
theorem eq_of_nameOf_eq {p' : Path} (ha : p.isAbsolute = true) (hn : p.normalize = p)
    (ha' : p'.isAbsolute = true) (hn' : p'.normalize = p') (h : Uri.nameOf p = Uri.nameOf p') :
    p = p' := by
  obtain ⟨q, hq, -, -, hp⟩ := exists_ofWorkspace?_nameOf ha hn
  obtain ⟨q', hq', -, -, hp'⟩ := exists_ofWorkspace?_nameOf ha' hn'
  rw [h, hq'] at hq
  obtain rfl := Option.some.inj hq
  rw [← hp, ← hp']

end Path

end ToolRelay
