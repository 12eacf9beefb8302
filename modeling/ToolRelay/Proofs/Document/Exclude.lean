import Mathlib.Algebra.GroupWithZero.Nat
import Mathlib.Algebra.Order.BigOperators.Group.List
import Mathlib.Algebra.Order.Group.Nat
import Mathlib.Data.List.Perm.Subperm
import Mathlib.Tactic.SplitIfs
import ToolRelay.Document.Exclude
import ToolRelay.Proofs.Glob.Plan
import ToolRelay.Proofs.Path.Below

/-!
# Excluded documents, pattern by pattern

A list of texts is compiled into one matcher.  Texts that are no patterns fall out on the way, and
all is lost if the others together go beyond a limit (`ExcludeMatcher.Compilable`).  Within the
limits the matcher is nothing but its patterns: it accepts what one of them accepts.

* `ExcludeMatcher.value_planAll` : what is left of a list of texts.
* `ExcludeMatcher.compilable_iff` : the limits, which depend neither on the order of the texts nor
  on those that are no patterns.
* `ExcludeMatcher.excludes_iff` : which documents are excluded.
* `ExcludeMatcher.excluded_union` : exclusion is the union of the patterns.
-/

namespace ToolRelay

/-! ### Limits -/

namespace Glob

/-- The size of a program for several patterns. -/
theorem foldl_programSize (patterns : List (List Token)) (n : Nat) :
    patterns.foldl (fun n ts => n + programSize ts) n = n + (patterns.map programSize).sum := by
  induction patterns generalizing n with
  | nil => rfl
  | cons ts rest ih => rw [List.foldl_cons, ih, List.map_cons, List.sum_cons, Nat.add_assoc]

/-- Patterns stay below the limits if none is nested too deeply and all of them together are not
too large. -/
theorem overload?_eq_none_iff (patterns : List (List Token)) :
    overload? patterns = none ↔
      (∀ ts ∈ patterns, nesting ts ≤ maxNesting) ∧
      stateSize + choiceSize patterns.length + (patterns.map programSize).sum ≤ maxSize := by
  have hdeep : (patterns.findIdx? fun ts => maxNesting < nesting ts) = none ↔
      ∀ ts ∈ patterns, nesting ts ≤ maxNesting := by
    simp
  rw [overload?, ← hdeep]
  cases patterns.findIdx? fun ts => maxNesting < nesting ts with
  | some index => simp
  | none =>
    simp only [foldl_programSize, true_and]
    split_ifs with hlarge
    · simpa using hlarge
    · simpa using hlarge

theorem choiceSize_mono {m n : Nat} (h : m ≤ n) : choiceSize m ≤ choiceSize n := by
  unfold choiceSize
  split_ifs <;> omega

/-- Some of the patterns, in any order, stay below the limits if all do. -/
theorem overload?_of_subperm {patterns others : List (List Token)} (h : others.Subperm patterns)
    (hall : overload? patterns = none) : overload? others = none := by
  rw [overload?_eq_none_iff] at hall ⊢
  obtain ⟨hdeep, hsize⟩ := hall
  refine ⟨fun ts hts => hdeep ts (h.subset hts), ?_⟩
  have hcount := choiceSize_mono h.length_le
  have hsum : (others.map programSize).sum ≤ (patterns.map programSize).sum := by
    obtain ⟨same, hperm, hsub⟩ := h
    rw [← (hperm.map programSize).sum_eq]
    exact (hsub.map programSize).sum_le_sum fun _ _ => Nat.zero_le _
  omega

end Glob

namespace ExcludeMatcher

variable {patterns others : List String} {pattern : String} {path root : Path} {octets : Bytes}

/-! ### Patterns -/

/-- A text is a pattern. -/
def IsPattern (pattern : String) : Prop := ∃ way, plan pattern = .ok way

/-- A text is a pattern that accepts octets. -/
def Accepts (pattern : String) (octets : Bytes) : Prop :=
  ∃ way, plan pattern = .ok way ∧ way.accepts octets = true

/-- A text is a pattern that accepts a path, or what is left of it below a directory. -/
def Names (pattern : String) (path root : Path) : Prop :=
  Accepts pattern path.bytes ∨
    ∃ rest, path.below? root = some rest ∧ Accepts pattern rest.bytes

theorem Accepts.isPattern (h : Accepts pattern octets) : IsPattern pattern :=
  let ⟨way, hway, _⟩ := h
  ⟨way, hway⟩

theorem Names.isPattern (h : Names pattern path root) : IsPattern pattern := by
  obtain h | ⟨rest, -, h⟩ := h
  · exact h.isPattern
  · exact h.isPattern

/-- How a text is matched, if it is a pattern. -/
def plan? (pattern : String) : Option Glob.Plan := (plan pattern).toOption

theorem plan?_eq_some_iff {way : Glob.Plan} :
    plan? pattern = some way ↔ plan pattern = .ok way := by
  rw [plan?]
  cases plan pattern <;> simp [Except.toOption]

theorem isSome_plan?_iff : (plan? pattern).isSome = true ↔ IsPattern pattern := by
  rw [Option.isSome_iff_exists]
  exact exists_congr fun _ => plan?_eq_some_iff

instance : DecidablePred IsPattern := fun _ => decidable_of_iff _ isSome_plan?_iff

theorem accepts_iff_any :
    (plan? pattern).any (·.accepts octets) = true ↔ Accepts pattern octets := by
  rw [Option.any_eq_true]
  exact exists_congr fun _ => and_congr_left' plan?_eq_some_iff

instance : Decidable (Accepts pattern octets) := decidable_of_iff _ accepts_iff_any

instance : Decidable (Names pattern path root) :=
  decidable_of_iff (Accepts pattern path.bytes ∨
    (path.below? root).any (fun rest => Accepts pattern rest.bytes) = true) <| by
      simp only [Option.any_eq_true, decide_eq_true_eq, Names]

/-- Only the patterns among some texts give a plan. -/
theorem filterMap_plan?_filter (patterns : List String) :
    (patterns.filter (IsPattern ·)).filterMap plan? = patterns.filterMap plan? := by
  rw [List.filterMap_filter]
  refine List.filterMap_congr fun pattern _ => ?_
  simp only [decide_eq_true_eq, ← isSome_plan?_iff]
  cases plan? pattern <;> rfl

/-- **Texts that are no patterns fall out**, wherever they stand. -/
theorem value_planAll (patterns : List String) :
    (planAll patterns).value = patterns.filterMap plan? := by
  induction patterns with
  | nil => rfl
  | cons pattern rest ih =>
    cases h : plan pattern with
    | error flaw =>
      have hnone : plan? pattern = none := by simp [plan?, h, Except.toOption]
      rw [List.filterMap_cons_none hnone, ← ih, planAll, h]
      rfl
    | ok way =>
      rw [List.filterMap_cons_some (plan?_eq_some_iff.2 h), ← ih, planAll, h]
      rfl

/-! ### Limits -/

/-- The patterns among some texts can be compiled, alone and together. -/
def Compilable (patterns : List String) : Prop := complaint? (planAll patterns).value = none

instance : DecidablePred Compilable := fun patterns =>
  inferInstanceAs (Decidable (complaint? (planAll patterns).value = none))

theorem value_ofPatterns (h : Compilable patterns) :
    (ofPatterns patterns).value = ⟨patterns.filterMap plan?⟩ := by
  rw [ofPatterns, Traced.value_bind, ← value_planAll]
  rw [Compilable] at h
  rw [h]
  rfl

theorem value_ofPatterns_of_not (h : ¬ Compilable patterns) :
    (ofPatterns patterns).value = empty := by
  rw [ofPatterns, Traced.value_bind]
  obtain ⟨complaint, hc⟩ := Option.ne_none_iff_exists'.1 h
  rw [hc]
  rfl

/-- **The limits**: every pattern that is compiled by itself stays below them, and so do those that
are compiled together. -/
theorem compilable_iff : Compilable patterns ↔
    (∀ way ∈ patterns.filterMap plan?, soleComplaint? way = none) ∧
      Glob.overload? ((patterns.filterMap plan?).filterMap joint?) = none := by
  rw [Compilable, value_planAll, complaint?]
  cases h : (patterns.filterMap plan?).findSome? soleComplaint? with
  | some complaint =>
    have hsome : ¬ ∀ way ∈ patterns.filterMap plan?, soleComplaint? way = none := by
      rw [← List.findSome?_eq_none_iff, h]
      exact nofun
    exact iff_of_false nofun fun hall => hsome hall.1
  | none =>
    rw [List.findSome?_eq_none_iff] at h
    simp only [Option.map_eq_none_iff]
    exact (and_iff_right h).symm

/-- Some of the texts, in any order, can be compiled if all can. -/
theorem Compilable.of_subperm (h : Compilable patterns) (hsub : others.Subperm patterns) :
    Compilable others := by
  obtain ⟨same, hperm, hsub⟩ := hsub
  rw [compilable_iff] at h ⊢
  -- plans and tokens are collected one by one, so what is left out of the texts is left out of them
  have hways : (others.filterMap plan?).Subperm (patterns.filterMap plan?) :=
    ⟨same.filterMap plan?, hperm.filterMap plan?, hsub.filterMap plan?⟩
  refine ⟨fun way hway => h.1 way (hways.subset hway), ?_⟩
  obtain ⟨same, hperm, hsub⟩ := hways
  exact Glob.overload?_of_subperm
    ⟨same.filterMap joint?, hperm.filterMap joint?, hsub.filterMap joint?⟩ h.2

/-! ### Exclusion -/

/-- What the patterns accept is what one of them accepts. -/
theorem accepts_iff : accepts ⟨patterns.filterMap plan?⟩ octets = true ↔
    ∃ pattern ∈ patterns, Accepts pattern octets := by
  simp only [accepts, List.any_eq_true, List.mem_filterMap, plan?_eq_some_iff]
  constructor
  · rintro ⟨way, ⟨pattern, hp, hway⟩, ha⟩
    exact ⟨pattern, hp, way, hway, ha⟩
  · rintro ⟨pattern, hp, way, hway, ha⟩
    exact ⟨way, ⟨pattern, hp, hway⟩, ha⟩

/-- Whether the matcher for some texts excludes a document. -/
def excludes (patterns : List String) (path root : Path) : Bool :=
  (ofPatterns patterns).value.isExcluded path root

theorem excludes_iff : excludes patterns path root = true ↔
    Compilable patterns ∧ ∃ pattern ∈ patterns, Names pattern path root := by
  rw [excludes]
  by_cases h : Compilable patterns
  · rw [value_ofPatterns h, isExcluded, Bool.or_eq_true, Option.any_eq_true]
    simp only [accepts_iff]
    constructor
    · rintro (⟨pattern, hp, ha⟩ | ⟨rest, hrest, pattern, hp, ha⟩)
      · exact ⟨h, pattern, hp, .inl ha⟩
      · exact ⟨h, pattern, hp, .inr ⟨rest, hrest, ha⟩⟩
    · rintro ⟨-, pattern, hp, ha | ⟨rest, hrest, ha⟩⟩
      · exact .inl ⟨pattern, hp, ha⟩
      · exact .inr ⟨rest, hrest, pattern, hp, ha⟩
  · rw [value_ofPatterns_of_not h]
    refine iff_of_false ?_ fun hc => h hc.1
    simp [isExcluded, accepts, empty]

/-- More patterns exclude no less. -/
theorem excludes_mono (hothers : Compilable others)
    (h : ∀ pattern ∈ patterns, IsPattern pattern → pattern ∈ others)
    (hexcluded : excludes patterns path root = true) : excludes others path root = true := by
  obtain ⟨-, pattern, hp, hnames⟩ := excludes_iff.1 hexcluded
  exact excludes_iff.2 ⟨hothers, pattern, h pattern hp hnames.isPattern, hnames⟩

/-- Which patterns there are decides what is excluded, not where they stand and how often. -/
theorem excludes_congr (hpatterns : Compilable patterns) (hothers : Compilable others)
    (h : ∀ pattern, IsPattern pattern → (pattern ∈ others ↔ pattern ∈ patterns)) :
    excludes others path root = excludes patterns path root := by
  rw [Bool.eq_iff_iff]
  constructor
  · exact excludes_mono hpatterns fun pattern hp hpattern => (h pattern hpattern).1 hp
  · exact excludes_mono hothers fun pattern hp hpattern => (h pattern hpattern).2 hp

theorem excludes_perm (h : others.Perm patterns) :
    excludes others path root = excludes patterns path root := by
  rw [Bool.eq_iff_iff, excludes_iff, excludes_iff]
  -- the limits do not look at the order
  have hcompilable : Compilable others ↔ Compilable patterns :=
    ⟨fun hc => hc.of_subperm h.symm.subperm, fun hc => hc.of_subperm h.subperm⟩
  simp only [hcompilable, h.mem_iff]

/-- Texts that are no patterns may stand anywhere. -/
theorem value_ofPatterns_congr
    (h : others.filter (IsPattern ·) = patterns.filter (IsPattern ·)) :
    (ofPatterns others).value = (ofPatterns patterns).value := by
  have hplans := congrArg (List.filterMap plan?) h
  rw [filterMap_plan?_filter, filterMap_plan?_filter] at hplans
  rw [ofPatterns, ofPatterns, Traced.value_bind, Traced.value_bind, value_planAll, value_planAll,
    hplans]

theorem accepts_iff_language (h : ¬ Glob.EndsInParent octets) : Accepts pattern octets ↔
    ∃ ts, Glob.parse pattern = .ok ts ∧ octets ∈ Glob.language ts := by
  have hplan : ∀ way, plan pattern = .ok way ↔
      ∃ ts, Glob.parse pattern = .ok ts ∧ Glob.Plan.of ts = way := by
    intro way
    rw [plan]
    cases Glob.parse pattern <;> simp [Except.map]
  constructor
  · rintro ⟨way, hway, haccepts⟩
    obtain ⟨ts, hts, rfl⟩ := (hplan way).1 hway
    exact ⟨ts, hts, ((Glob.Plan.serves_of ts octets).1 haccepts).1⟩
  · rintro ⟨ts, hts, hmem⟩
    exact ⟨_, (hplan _).2 ⟨ts, hts, rfl⟩, (Glob.Plan.serves_of ts octets).2 ⟨hmem, fun _ => h⟩⟩

/-- The documents that some texts exclude are those that the patterns among them exclude, each by
itself. -/
structure IsUnion (patterns : List String) : Prop where
  /-- A document is excluded iff a pattern accepts its path, or what is left of that below the
  root. -/
  excludes_iff (path root : Path) :
    excludes patterns path root = true ↔ ∃ pattern ∈ patterns, Names pattern path root
  /-- Texts that are no patterns change nothing, wherever they stand. -/
  ignores (others : List String)
    (h : others.filter (IsPattern ·) = patterns.filter (IsPattern ·)) (path root : Path) :
    excludes others path root = excludes patterns path root
  /-- The order changes nothing. -/
  perm (others : List String) (h : others.Perm patterns) (path root : Path) :
    excludes others path root = excludes patterns path root
  /-- Repetition changes nothing. -/
  repeats (others : List String) (hothers : Compilable others)
    (h : ∀ pattern, IsPattern pattern → (pattern ∈ others ↔ pattern ∈ patterns))
    (path root : Path) :
    excludes others path root = excludes patterns path root
  /-- More texts exclude no less. -/
  mono (others : List String) (hothers : Compilable others) (h : patterns ⊆ others)
    (path root : Path) (hexcluded : excludes patterns path root = true) :
    excludes others path root = true
  /-- Without a pattern nothing is excluded. -/
  eq_false (h : ∀ pattern ∈ patterns, ¬ IsPattern pattern) (path root : Path) :
    excludes patterns path root = false

/-- **Exclusion is the union of the patterns**, if they can be compiled together.  A path lies below
a root component by component, and what is left of it has the other components; a pattern accepts
what its tokens stand for. -/
theorem excluded_union (patterns : List String) (h : Compilable patterns) :
    IsUnion patterns ∧
      (∀ path root : Path,
        ((path.below? root).isSome = true ↔ root.components <+: path.components) ∧
        ∀ rest, path.below? root = some rest →
          path.components = root.components ++ rest.components) ∧
      ∀ pattern octets, ¬ Glob.EndsInParent octets → (Accepts pattern octets ↔
        ∃ ts, Glob.parse pattern = .ok ts ∧ octets ∈ Glob.language ts) := by
  refine ⟨?_, ?_, ?_⟩
  · constructor
    case excludes_iff =>
      intro path root
      rw [ExcludeMatcher.excludes_iff]
      exact and_iff_right h
    case ignores =>
      intro others hothers path root
      rw [excludes, excludes, value_ofPatterns_congr hothers]
    case perm => exact fun others hperm path root => excludes_perm hperm
    case repeats => exact fun others hothers hmem path root => excludes_congr h hothers hmem
    case mono =>
      intro others hothers hsub path root
      exact excludes_mono hothers fun pattern hp _ => hsub hp
    case eq_false =>
      intro hnone path root
      rw [Bool.eq_false_iff, Ne, ExcludeMatcher.excludes_iff]
      rintro ⟨-, pattern, hp, hnames⟩
      exact hnone pattern hp hnames.isPattern
  · intro path root
    exact ⟨Path.isSome_below?_iff, fun rest => Path.components_of_below?⟩
  · intro pattern octets hoctets
    exact accepts_iff_language hoctets

/-- Two patterns and between them a text that is none. -/
def mixedPatterns : List String := ["*.tmp", "src/\x7ba", "src/**/gen.py"]

theorem excluded_union_mixed :
    excludes mixedPatterns (.ofString "/w/./src/a/b/gen.py") (.ofString "/w") = true ∧
      excludes mixedPatterns (.ofString "/other/src/gen.py") (.ofString "/w") = false ∧
      excludes ["src/**/gen.py", "*.tmp", "*.tmp"] (.ofString "/other/a.tmp") (.ofString "/w") =
        excludes mixedPatterns (.ofString "/other/a.tmp") (.ofString "/w") := by
  obtain ⟨hunion, -⟩ := excluded_union mixedPatterns (by decide +kernel)
  refine ⟨?_, ?_, ?_⟩
  · -- below the root, and spelled with an idle component
    rw [hunion.excludes_iff]
    exact ⟨"src/**/gen.py", by decide, by decide +kernel⟩
  · -- outside the root
    rw [Bool.eq_false_iff, Ne, hunion.excludes_iff]
    decide +kernel
  · -- in another order, repeated and without the text that is no pattern
    refine hunion.repeats _ (by decide +kernel) (fun pattern hpattern => ?_) _ _
    have hne : pattern ≠ "src/\x7ba" := by
      rintro rfl
      exact absurd hpattern (by decide +kernel)
    simp [mixedPatterns, hne, or_comm]

end ExcludeMatcher

end ToolRelay
