import Mathlib.Data.List.DropRight
import ToolRelay.Proofs.Glob.Language
import ToolRelay.Proofs.Text.Utf8

/-!
# Simpler ways of matching

A pattern is matched in the simplest way that its form allows.  Whichever way that is, it accepts
the paths that the pattern stands for, with one exception: the step to the parent directory at the
end of a path is no name, so a way that looks at the last component rejects such a path.

* `Glob.Plan.serves_of` : what the way of matching a pattern accepts.
-/

namespace ToolRelay

namespace Glob

variable {path text xs zs : Bytes} {ts : List Token} {cs : List Char}

/-! ### The end of a path -/

theorem rtakeWhile_append {p : UInt8 → Bool} (h : ∀ b ∈ zs, p b = true) :
    (xs ++ zs).rtakeWhile p = xs.rtakeWhile p ++ zs := by
  have hall : ∀ b ∈ zs.reverse, p b = true := fun b hb => h b (List.mem_reverse.1 hb)
  rw [List.rtakeWhile, List.reverse_append, List.takeWhile_append_of_pos hall, List.reverse_append,
    List.reverse_reverse, List.rtakeWhile]

/-- What follows the last of some octets that are equal to `a`. -/
theorem rtakeWhile_ne_eq_iff {a : UInt8} (h : a ∉ text) :
    xs.rtakeWhile (· ≠ a) = text ↔ xs = text ∨ a :: text <:+ xs := by
  have hall : ∀ b ∈ text, decide (b ≠ a) = true := by
    intro b hb
    exact decide_eq_true fun hba => h (hba ▸ hb)
  constructor
  · intro heq
    have hcut := List.rdropWhile_append_rtakeWhile (p := (· ≠ a)) (l := xs)
    rw [heq] at hcut
    by_cases hnil : xs.rdropWhile (· ≠ a) = []
    · rw [hnil] at hcut
      exact .inl hcut.symm
    · -- what is cut off ends in `a`
      have hlast : (xs.rdropWhile (· ≠ a)).getLast hnil = a := by
        simpa using List.rdropWhile_last_not (· ≠ a) xs hnil
      rw [← List.dropLast_append_getLast hnil, hlast, List.append_assoc] at hcut
      exact .inr ⟨_, hcut⟩
  · rintro (rfl | ⟨ys, rfl⟩)
    · exact List.rtakeWhile_eq_self_iff.2 hall
    · rw [← List.singleton_append, ← List.append_assoc, rtakeWhile_append hall,
        List.rtakeWhile_concat_neg _ _ _ (by simp), List.nil_append]

/-- What follows the last separator. -/
def finalName (path : Bytes) : Bytes := path.rtakeWhile (· ≠ 0x2F)

/-- A path ends in the step to the parent directory. -/
def EndsInParent (path : Bytes) : Prop := finalName path = [0x2E, 0x2E]

theorem lastComponent_of_endsInParent (h : EndsInParent path) : lastComponent path = [] := if_pos h

theorem lastComponent_of_not (h : ¬ EndsInParent path) : lastComponent path = finalName path :=
  if_neg h

theorem extensionOf_eq (path : Bytes) : extensionOf path =
    if 0x2E ∈ lastComponent path then 0x2E :: (lastComponent path).rtakeWhile (· ≠ 0x2E)
    else [] := by
  simp only [extensionOf, List.contains_iff_mem]
  rfl

theorem extensionOf_eq_iff (hdot : 0x2E ∉ text) (hsep : 0x2F ∉ text) :
    extensionOf path = 0x2E :: text ↔ 0x2E :: text <:+ path ∧ ¬ EndsInParent path := by
  rw [extensionOf_eq]
  by_cases hparent : EndsInParent path
  · simp [lastComponent_of_endsInParent hparent, hparent]
  · rw [and_iff_left hparent, lastComponent_of_not hparent]
    constructor
    · intro h
      split_ifs at h with hmem
      obtain heq | hsuffix := (rtakeWhile_ne_eq_iff hdot).1 (List.cons.inj h).2
      · exact absurd hmem (heq ▸ hdot)
      · exact hsuffix.trans (List.rtakeWhile_suffix _ _)
    · rintro ⟨ys, rfl⟩
      have hall : ∀ b ∈ (0x2E : UInt8) :: text, decide (b ≠ 0x2F) = true := by
        intro b hb
        obtain rfl | hb := List.mem_cons.1 hb
        · decide
        · exact decide_eq_true fun hbs => hsep (hbs ▸ hb)
      have hname : finalName (ys ++ 0x2E :: text) = finalName ys ++ 0x2E :: text :=
        rtakeWhile_append hall
      have hmem : 0x2E ∈ finalName ys ++ 0x2E :: text := by simp
      rw [hname, if_pos hmem,
        (rtakeWhile_ne_eq_iff hdot).2 (.inr (List.suffix_append (finalName ys) _))]

/-! ### Octets of a text -/

theorem notMem_octets {b : UInt8} (hb : b.toNat < 0x80) (h : Char.ofNat b.toNat ∉ cs) :
    b ∉ octets cs := by
  intro hmem
  obtain ⟨c, hc, hbc⟩ := List.mem_flatMap.1 hmem
  rw [(Utf8.encodeChar_of_mem hb hbc).2] at hc
  exact h hc

theorem octets_cons (c : Char) (cs : List Char) :
    octets (c :: cs) = String.utf8EncodeChar c ++ octets cs := List.flatMap_cons

theorem octets_append (cs ds : List Char) : octets (cs ++ ds) = octets cs ++ octets ds :=
  List.flatMap_append

theorem octets_ne_nil (h : cs ≠ []) : octets cs ≠ [] := by
  obtain ⟨c, cs, rfl⟩ := List.exists_cons_of_ne_nil h
  rw [octets_cons]
  have hlen := String.length_utf8EncodeChar c
  intro hnil
  rw [List.append_eq_nil_iff] at hnil
  rw [hnil.1] at hlen
  exact absurd hlen (Nat.ne_of_lt (Char.utf8Size_pos c))

theorem allLanguage_append (ts us : List Token) :
    allLanguage (ts ++ us) = allLanguage ts * allLanguage us := by
  induction ts with
  | nil => exact (one_mul _).symm
  | cons t ts ih => rw [List.cons_append, allLanguage, ih, allLanguage, mul_assoc]

theorem literals?_cons_eq_some {t : Token} (h : literals? (t :: ts) = some cs) :
    ∃ c rest, t = .literal c ∧ literals? ts = some rest ∧ cs = c :: rest := by
  cases t with
  | literal c =>
    obtain ⟨rest, hrest, rfl⟩ := Option.map_eq_some_iff.1 h
    exact ⟨c, rest, rfl, hrest, rfl⟩
  | _ => cases h

/-- Tokens that all stand for themselves stand for one text. -/
theorem allLanguage_of_literals? (h : literals? ts = some cs) : allLanguage ts = {octets cs} := by
  induction ts generalizing cs with
  | nil =>
    obtain rfl := Option.some.inj h
    rfl
  | cons t ts ih =>
    obtain ⟨c, rest, rfl, hrest, rfl⟩ := literals?_cons_eq_some h
    rw [allLanguage, ih hrest, octets_cons, singleton_append, Token.language]

/-! ### Beginnings and ends -/

theorem mem_top_mul_singleton : path ∈ (⊤ * {text} : Language UInt8) ↔ text <:+ path := by
  rw [Language.mem_mul]
  constructor
  · rintro ⟨xs, -, _, rfl, rfl⟩
    exact List.suffix_append xs _
  · rintro ⟨xs, rfl⟩
    exact ⟨xs, trivial, text, rfl, rfl⟩

theorem mem_singleton_mul_top : path ∈ ({text} * ⊤ : Language UInt8) ↔ text <+: path := by
  rw [mem_mul_top]
  constructor
  · rintro ⟨_, hprefix, rfl⟩
    exact hprefix
  · intro hprefix
    exact ⟨text, hprefix, rfl⟩

theorem star_language : Token.star.language = ⊤ := by rw [Token.language]

/-- A text after any components. -/
theorem mem_recursivePrefix_mul_singleton :
    path ∈ Token.recursivePrefix_.language * {text} ↔ path = text ∨ 0x2F :: text <:+ path := by
  rw [Token.language, separatorLanguage, octetLanguage_beq, add_mul, one_mul, mul_assoc,
    ← singleton_append, Language.mem_add, mem_top_mul_singleton]
  rfl

/-- Anything after any components is anything. -/
theorem recursivePrefix_mul_top : Token.recursivePrefix_.language * ⊤ = ⊤ := by
  ext word
  rw [Token.language, add_mul, one_mul, Language.mem_add]
  exact iff_of_true (.inl trivial) trivial

theorem language_concat {t : Token} (h : t ≠ .recursivePrefix_) :
    language (ts ++ [t]) = allLanguage ts * t.language := by
  have hne : ts ++ [t] ≠ [.recursivePrefix_] := by
    intro heq
    rw [← List.nil_append [Token.recursivePrefix_]] at heq
    obtain ⟨-, ht⟩ := List.append_inj' heq rfl
    exact h (List.singleton_inj.1 ht)
  rw [language_of_ne hne, allLanguage_append, allLanguage, allLanguage, mul_one]

/-! ### The forms of patterns -/

theorem language_of_baseName? (h : baseName? ts = some cs) :
    language ts = Token.recursivePrefix_.language * {octets cs} ∧ cs ≠ [] ∧ '/' ∉ cs := by
  unfold baseName? at h
  split at h
  · rename_i rest
    split at h
    · cases h
    · rename_i more hne hmore
      split_ifs at h with hslash
      obtain rfl := Option.some.inj h
      have hrest : rest ≠ [] := by
        rintro rfl
        obtain rfl := Option.some.inj hmore
        exact hne rfl
      refine ⟨?_, hne, by simpa using hslash⟩
      rw [language_of_ne (by simp [hrest]), allLanguage, allLanguage_of_literals? hmore]
    · cases h
  · cases h

theorem language_of_whole? (h : whole? ts = some cs) : language ts = {octets cs} := by
  obtain ⟨hlit, hne⟩ := Option.filter_eq_some_iff.1 h
  have hts : ts ≠ [.recursivePrefix_] := by
    rintro rfl
    cases hlit
  rw [language_of_ne hts, allLanguage_of_literals? hlit]

/-- Characters are a dot and behind it neither dots nor separators. -/
def IsExtension (cs : List Char) : Prop := ∃ rest, cs = '.' :: rest ∧ '.' ∉ rest ∧ '/' ∉ rest

theorem allLanguage_of_extensionAfter? (h : extensionAfter? ts = some cs) :
    allLanguage ts = ⊤ * {octets cs} ∧ IsExtension cs := by
  unfold extensionAfter? at h
  split at h
  · rename_i rest
    split at h
    · rename_i more hmore
      split_ifs at h with hchars
      obtain rfl := Option.some.inj h
      refine ⟨?_, more, rfl, by simpa using hchars⟩
      have hlit : literals? (.literal '.' :: rest) = some ('.' :: more) := by
        rw [literals?, hmore, Option.map_some]
      rw [allLanguage, allLanguage_of_literals? hlit, Token.language]
    · cases h
  · cases h

theorem language_of_extension? (h : extension? ts = some cs) :
    language ts = ⊤ * {octets cs} ∧ IsExtension cs := by
  unfold extension? at h
  split at h
  · rename_i rest
    obtain ⟨hrest, hcs⟩ := allLanguage_of_extensionAfter? h
    refine ⟨?_, hcs⟩
    have hne : rest ≠ [] := by
      rintro rfl
      cases h
    rw [language_of_ne (by simp [hne]), allLanguage, hrest, ← mul_assoc, recursivePrefix_mul_top]
  · rename_i hne
    rw [language_of_ne (hne [])]
    exact allLanguage_of_extensionAfter? h

theorem literals?_ne_some (hwhole : whole? ts = none) (hne : cs ≠ []) : literals? ts ≠ some cs := by
  intro h
  rw [whole?, h, Option.filter_some, if_pos (decide_eq_true hne)] at hwhole
  cases hwhole

theorem language_of_beginning? (hwhole : whole? ts = none) (h : beginning? ts = some cs) :
    language ts = {octets cs} * ⊤ := by
  obtain ⟨htext, hne⟩ := Option.filter_eq_some_iff.1 h
  have hne : cs ≠ [] := of_decide_eq_true hne
  split at htext
  · rename_i hlast
    obtain ⟨before, rfl⟩ := List.getLast?_eq_some_iff.1 hlast
    rw [List.dropLast_concat] at htext
    rw [language_concat (t := .star) nofun, allLanguage_of_literals? htext, Token.language]
  · rename_i hlast
    obtain ⟨before, rfl⟩ := List.getLast?_eq_some_iff.1 hlast
    rw [List.dropLast_concat] at htext
    obtain ⟨cs, hcs, rfl⟩ := Option.map_eq_some_iff.1 htext
    have hslash : octets ['/'] = [0x2F] := by decide
    rw [language_concat (t := .recursiveSuffix) nofun, allLanguage_of_literals? hcs, octets_append,
      hslash, singleton_append, Token.language, separatorLanguage, octetLanguage_beq, mul_assoc]
  · exact absurd htext (literals?_ne_some hwhole hne)

theorem literals?_dropStar (h : literals? (dropStar ts) = some cs) :
    (∃ rest, ts = .star :: rest ∧ literals? rest = some cs) ∨ literals? ts = some cs := by
  unfold dropStar at h
  split at h
  · exact .inl ⟨_, rfl, h⟩
  · exact .inr h

theorem ending?_eq_some {component : Bool} (h : ending? ts = some (cs, component)) :
    cs ≠ [] ∧ (component = true ∧ (∃ rest text, ts = .recursivePrefix_ :: rest ∧ rest ≠ [] ∧
        literals? rest = some text ∧ cs = '/' :: text) ∨
      component = false ∧ ((∃ rest, (ts = .recursivePrefix_ :: .star :: rest ∨ ts = .star :: rest) ∧
        literals? rest = some cs) ∨ literals? ts = some cs)) := by
  unfold ending? at h
  split at h
  rename_i text flag hpair
  cases text with
  | none => cases h
  | some text =>
    simp only at h
    split_ifs at h with hshort
    obtain ⟨rfl, rfl⟩ := Prod.mk.inj (Option.some.inj h)
    refine ⟨fun hnil => hshort (.inl hnil), ?_⟩
    split at hpair
    · obtain ⟨htext, rfl⟩ := Prod.mk.inj hpair
      obtain ⟨text, hlit, rfl⟩ := Option.map_eq_some_iff.1 htext
      exact .inl ⟨rfl, _, text, rfl, List.cons_ne_nil _ _, hlit, rfl⟩
    · cases hpair
    · -- what follows does not begin with a character
      rename_i rest hliteral hnil
      obtain ⟨htext, rfl⟩ := Prod.mk.inj hpair
      obtain ⟨more, rfl, hlit⟩ | hlit := literals?_dropStar htext
      · exact .inr ⟨rfl, .inl ⟨more, .inl rfl, hlit⟩⟩
      · obtain ⟨t, more, rfl⟩ := List.exists_cons_of_ne_nil hnil
        obtain ⟨c, -, rfl, -⟩ := literals?_cons_eq_some hlit
        exact absurd rfl (hliteral c more)
    · cases hpair
    · obtain ⟨htext, rfl⟩ := Prod.mk.inj hpair
      split_ifs at htext
      obtain ⟨more, rfl, hlit⟩ | hlit := literals?_dropStar htext
      · exact .inr ⟨rfl, .inl ⟨more, .inr rfl, hlit⟩⟩
      · exact .inr ⟨rfl, .inr hlit⟩

theorem language_of_endingComponent? (h : ending? ts = some (cs, true)) :
    ∃ text, cs = '/' :: text ∧ language ts = Token.recursivePrefix_.language * {octets text} := by
  obtain ⟨-, ⟨-, rest, text, rfl, hrest, hlit, rfl⟩ | ⟨hflag, -⟩⟩ := ending?_eq_some h
  · refine ⟨text, rfl, ?_⟩
    rw [language_of_ne (by simp [hrest]), allLanguage, allLanguage_of_literals? hlit]
  · cases hflag

theorem language_of_ending? (hwhole : whole? ts = none) (h : ending? ts = some (cs, false)) :
    language ts = ⊤ * {octets cs} := by
  obtain ⟨hne, ⟨hflag, -⟩ | ⟨-, ⟨rest, rfl | rfl, hlit⟩ | hlit⟩⟩ := ending?_eq_some h
  · cases hflag
  · rw [language_of_ne (by simp), allLanguage, allLanguage, allLanguage_of_literals? hlit,
      ← mul_assoc, star_language, recursivePrefix_mul_top]
  · rw [language_of_ne (by simp), allLanguage, allLanguage_of_literals? hlit, Token.language]
  · exact absurd hlit (literals?_ne_some hwhole hne)

/-- Tokens, given last first, that end in an extension together with the characters already
`done`. -/
theorem allLanguage_of_requiredExtension? {done : List Char} (hdot : '.' ∉ done)
    (hsep : '/' ∉ done) (h : requiredExtension? done ts = some cs) :
    (∃ L, allLanguage ts.reverse * {octets done} = L * {octets cs}) ∧ IsExtension cs := by
  induction ts generalizing done with
  | nil => cases h
  | cons t ts ih =>
    cases t with
    | literal c =>
      have hcons : allLanguage (Token.literal c :: ts).reverse * {octets done} =
          allLanguage ts.reverse * {octets (c :: done)} := by
        rw [List.reverse_cons, allLanguage_append, octets_cons, singleton_append, ← mul_assoc]
        simp only [allLanguage, Token.language, mul_one]
      rw [requiredExtension?] at h
      rw [hcons]
      split_ifs at h with hc hc'
      · obtain rfl := Option.some.inj h
        subst hc'
        exact ⟨⟨_, rfl⟩, done, rfl, hdot, hsep⟩
      · refine ih ?_ ?_ h
        · exact List.not_mem_cons_of_ne_of_not_mem (Ne.symm hc') hdot
        · exact List.not_mem_cons_of_ne_of_not_mem (Ne.symm hc) hsep
    | _ => cases h

/-! ### The ways -/

/-- A way of matching looks at the last component of a path. -/
def Plan.UsesName : Plan → Prop
  | .baseName _ | .extension _ | .withExtension _ _ => True
  | _ => False

/-- A way of matching accepts what a pattern stands for, but for the step to the parent directory at
the end of a path if it looks at the last component. -/
def Plan.Serves (way : Plan) (ts : List Token) : Prop :=
  ∀ path, way.accepts path = true ↔ path ∈ language ts ∧ (way.UsesName → ¬ EndsInParent path)

theorem Plan.Serves.of_not_usesName {way : Plan} (hname : ¬ way.UsesName)
    (h : ∀ path, way.accepts path = true ↔ path ∈ language ts) : way.Serves ts := by
  intro path
  rw [h path]
  exact (and_iff_left fun hway => absurd hway hname).symm

theorem Plan.Serves.of_usesName {way : Plan} (hname : way.UsesName)
    (h : ∀ path, way.accepts path = true ↔ path ∈ language ts ∧ ¬ EndsInParent path) :
    way.Serves ts := by
  intro path
  rw [h path]
  exact and_congr_right' (imp_iff_right hname).symm

theorem serves_tokens (ts : List Token) : (Plan.tokens ts).Serves ts :=
  .of_not_usesName not_false fun path => matchTokens_iff ts path

theorem serves_whole (h : whole? ts = some cs) : (Plan.whole (octets cs)).Serves ts := by
  refine .of_not_usesName not_false fun path => ?_
  rw [Plan.accepts, beq_iff_eq, language_of_whole? h]
  rfl

theorem serves_beginning (hwhole : whole? ts = none) (h : beginning? ts = some cs) :
    (Plan.beginning (octets cs)).Serves ts := by
  refine .of_not_usesName not_false fun path => ?_
  rw [Plan.accepts, List.isPrefixOf_iff_prefix, language_of_beginning? hwhole h,
    mem_singleton_mul_top]

theorem serves_ending (hwhole : whole? ts = none) (h : ending? ts = some (cs, false)) :
    (Plan.ending (octets cs)).Serves ts := by
  refine .of_not_usesName not_false fun path => ?_
  rw [Plan.accepts, List.isSuffixOf_iff_suffix, language_of_ending? hwhole h, mem_top_mul_singleton]

theorem serves_endingComponent (h : ending? ts = some (cs, true)) :
    (Plan.endingComponent (octets cs)).Serves ts := by
  refine .of_not_usesName not_false fun path => ?_
  obtain ⟨text, rfl, hlanguage⟩ := language_of_endingComponent? h
  have hcons : octets ('/' :: text) = 0x2F :: octets text := octets_cons '/' text
  rw [Plan.accepts, Bool.or_eq_true, List.isSuffixOf_iff_suffix, beq_iff_eq, hlanguage,
    mem_recursivePrefix_mul_singleton, hcons, List.drop_succ_cons, List.drop_zero, or_comm]

theorem serves_baseName (h : baseName? ts = some cs) : (Plan.baseName (octets cs)).Serves ts := by
  refine .of_usesName trivial fun path => ?_
  obtain ⟨hlanguage, hne, hslash⟩ := language_of_baseName? h
  have hsep : 0x2F ∉ octets cs := notMem_octets (by decide) hslash
  have hempty : (octets cs).isEmpty = false := by simpa using octets_ne_nil hne
  rw [hlanguage, mem_recursivePrefix_mul_singleton, ← rtakeWhile_ne_eq_iff hsep]
  simp only [Plan.accepts, hempty, Bool.not_false, Bool.and_true, beq_iff_eq]
  by_cases hparent : EndsInParent path
  · rw [lastComponent_of_endsInParent hparent]
    exact iff_of_false (octets_ne_nil hne).symm fun hname => hname.2 hparent
  · rw [lastComponent_of_not hparent, and_iff_left hparent, finalName]

theorem extensionOf_eq_octets_iff (h : IsExtension cs) :
    extensionOf path = octets cs ↔
      path ∈ (⊤ * {octets cs} : Language UInt8) ∧ ¬ EndsInParent path := by
  obtain ⟨rest, rfl, hdot, hslash⟩ := h
  have hcons : octets ('.' :: rest) = 0x2E :: octets rest := octets_cons '.' rest
  rw [mem_top_mul_singleton, hcons]
  exact extensionOf_eq_iff (notMem_octets (by decide) hdot) (notMem_octets (by decide) hslash)

theorem serves_extension (h : extension? ts = some cs) :
    (Plan.extension (octets cs)).Serves ts := by
  refine .of_usesName trivial fun path => ?_
  obtain ⟨hlanguage, hcs⟩ := language_of_extension? h
  have hempty : (octets cs).isEmpty = false := by
    obtain ⟨rest, rfl, -⟩ := hcs
    simpa using octets_ne_nil (List.cons_ne_nil '.' rest)
  simp only [Plan.accepts, hempty, Bool.not_false, Bool.and_true, beq_iff_eq]
  rw [hlanguage, extensionOf_eq_octets_iff hcs]

theorem serves_withExtension (h : requiredExtension? [] ts.reverse = some cs) :
    (Plan.withExtension (octets cs) ts).Serves ts := by
  refine .of_usesName trivial fun path => ?_
  obtain ⟨⟨L, hL⟩, hcs⟩ := allLanguage_of_requiredExtension? List.not_mem_nil List.not_mem_nil h
  have hne : ts ≠ [.recursivePrefix_] := by
    rintro rfl
    cases h
  have hlanguage : language ts = L * {octets cs} := by
    rw [language_of_ne hne, ← hL, List.reverse_reverse]
    exact (mul_one _).symm
  rw [Plan.accepts, Bool.and_eq_true, beq_iff_eq, extensionOf_eq_octets_iff hcs, matchTokens_iff]
  constructor
  · rintro ⟨⟨-, hparent⟩, hmem⟩
    exact ⟨hmem, hparent⟩
  · rintro ⟨hmem, hparent⟩
    -- whatever the tokens stand for ends in the extension
    rw [hlanguage, Language.mem_mul] at hmem ⊢
    obtain ⟨xs, hxs, _, rfl, rfl⟩ := hmem
    exact ⟨⟨Language.append_mem_mul trivial rfl, hparent⟩, xs, hxs, _, rfl, rfl⟩

/-- **The way of matching a pattern** accepts what the pattern stands for. -/
theorem Plan.serves_of (ts : List Token) : (Plan.of ts).Serves ts := by
  unfold Plan.of
  cases hbase : baseName? ts with
  | some cs => exact serves_baseName hbase
  | none =>
  cases hwhole : whole? ts with
  | some cs => exact serves_whole hwhole
  | none =>
  cases hextension : extension? ts with
  | some cs => exact serves_extension hextension
  | none =>
  cases hbeginning : beginning? ts with
  | some cs => exact serves_beginning hwhole hbeginning
  | none =>
  cases hending : ending? ts with
  | some found =>
    obtain ⟨cs, component⟩ := found
    cases component with
    | true => exact serves_endingComponent hending
    | false => exact serves_ending hwhole hending
  | none =>
  cases hrequired : requiredExtension? [] ts.reverse with
  | some cs => exact serves_withExtension hrequired
  | none => exact serves_tokens ts

end Glob

end ToolRelay
