import Mathlib.Computability.Language
import ToolRelay.Glob.Match

/-!
# What tokens stand for

Tokens stand for a language over octets: one after another for the products, alternatives for the
sum.  The matcher walks through a path with a list of truth values, one for every place, and this
list marks those beginnings of the path that lie in a language (`Glob.Marks`).  One token turns the
marks of a language into those of its product with the language of the token (`Marks.step`), so
what is marked after the last token are the beginnings that the tokens stand for.

* `Glob.matchTokens_iff` : the matcher decides the language of a pattern.
-/

namespace ToolRelay

namespace Glob

/-! ### Languages -/

/-- One octet that satisfies `p`. -/
def octetLanguage (p : UInt8 → Bool) : Language UInt8 := {word | ∃ b, p b = true ∧ word = [b]}

/-- The separator. -/
def separatorLanguage : Language UInt8 := octetLanguage (· == 0x2F)

mutual

/-- What a token stands for. -/
def Token.language : Token → Language UInt8
  | .literal c => {String.utf8EncodeChar c}
  | .any => octetLanguage fun _ => true
  | .star => ⊤
  | .recursivePrefix_ => 1 + ⊤ * separatorLanguage
  | .recursiveSuffix => separatorLanguage * ⊤
  | .recursiveMiddle => separatorLanguage + separatorLanguage * ⊤ * separatorLanguage
  | .class_ negated ranges => octetLanguage (inClass negated ranges)
  | .alternates branches => if allVoid branches then 1 else anyLanguage branches

/-- What one of several patterns stands for.  A pattern that stands for nothing at all is no
alternative. -/
def anyLanguage : List (List Token) → Language UInt8
  | [] => 0
  | branch :: rest =>
    if areVoid branch then anyLanguage rest else allLanguage branch + anyLanguage rest

/-- What tokens stand for. -/
def allLanguage : List Token → Language UInt8
  | [] => 1
  | t :: rest => t.language * allLanguage rest

end

/-- What a pattern stands for.  The recursive token alone stands for every path. -/
def language : List Token → Language UInt8
  | [.recursivePrefix_] => ⊤
  | ts => allLanguage ts

variable {path xs : Bytes} {L M : Language UInt8} {front next : List Bool}

theorem octetLanguage_beq (b : UInt8) : octetLanguage (· == b) = {[b]} := by
  ext word
  simp only [octetLanguage, beq_iff_eq]
  exact exists_eq_left

theorem singleton_append (xs ys : Bytes) : ({xs ++ ys} : Language UInt8) = {xs} * {ys} :=
  Set.image2_singleton.symm

theorem append_octet_mem_mul {p : UInt8 → Bool} {b : UInt8} :
    xs ++ [b] ∈ L * octetLanguage p ↔ xs ∈ L ∧ p b = true := by
  rw [Language.mem_mul]
  constructor
  · rintro ⟨ys, hys, _, ⟨a, ha, rfl⟩, heq⟩
    obtain ⟨rfl, hab⟩ := List.append_inj' heq rfl
    obtain rfl := List.singleton_inj.1 hab
    exact ⟨hys, ha⟩
  · rintro ⟨hxs, hb⟩
    exact ⟨xs, hxs, [b], ⟨b, hb, rfl⟩, rfl⟩

theorem nil_notMem_mul_octet {p : UInt8 → Bool} : [] ∉ L * octetLanguage p := by
  rw [Language.mem_mul]
  rintro ⟨ys, -, _, ⟨a, -, rfl⟩, heq⟩
  simp at heq

theorem mem_mul_top : xs ∈ L * ⊤ ↔ ∃ ys, ys <+: xs ∧ ys ∈ L := by
  rw [Language.mem_mul]
  constructor
  · rintro ⟨ys, hys, zs, -, rfl⟩
    exact ⟨ys, List.prefix_append ys zs, hys⟩
  · rintro ⟨ys, ⟨zs, rfl⟩, hys⟩
    exact ⟨ys, hys, zs, trivial, rfl⟩

/-! ### Marks -/

/-- A list of truth values, one for every place in a path, marks the places behind the beginnings
of the path in a language. -/
structure Marks (path : Bytes) (L : Language UInt8) (front : List Bool) : Prop where
  /-- There is a truth value for every place. -/
  length_eq : front.length = path.length + 1
  /-- The beginnings in the language are marked. -/
  mem_iff : ∀ xs, xs <+: path → (front[xs.length]? = some true ↔ xs ∈ L)

theorem Marks.congr (h : Marks path L front) (heq : L = M) : Marks path M front := heq ▸ h

/-- At the beginning only the first place is marked. -/
theorem Marks.start (path : Bytes) : Marks path 1 (true :: path.map fun _ => false) where
  length_eq := by simp
  mem_iff xs _ := by
    rw [Language.mem_one]
    cases xs with
    | nil => simp
    | cons b xs => simp [List.getElem?_replicate]

theorem Marks.stepOctet (h : Marks path L front) (p : UInt8 → Bool) :
    Marks path (L * octetLanguage p) (stepOctet p path front) where
  length_eq := by simp [Glob.stepOctet, h.length_eq]
  mem_iff xs hxs := by
    -- the place behind an octet is marked through the place before it
    obtain rfl | ⟨ys, b, rfl⟩ := List.eq_nil_or_concat xs
    · simp [Glob.stepOctet, nil_notMem_mul_octet]
    · rw [List.concat_eq_append] at hxs ⊢
      have hys := (List.prefix_append ys [b]).trans hxs
      obtain ⟨zs, rfl⟩ := hxs
      have hb : (ys ++ [b] ++ zs)[ys.length]? = some b := by simp
      rw [append_octet_mem_mul, ← h.mem_iff ys hys, Glob.stepOctet, List.length_append,
        List.length_singleton, List.getElem?_cons_succ, List.getElem?_zipWith, hb]
      cases front[ys.length]? <;> simp

/-- Which places lie at or after a marked one, if one has been `seen` before. -/
def spread (seen : Bool) : List Bool → List Bool
  | [] => []
  | r :: rest => (seen || r) :: spread (seen || r) rest

theorem stepStar_eq (front : List Bool) : Glob.stepStar front = spread false front := by
  have hfold : ∀ state : List Bool × Bool,
      (front.foldl (fun state r => ((state.2 || r) :: state.1, state.2 || r)) state).1.reverse =
        state.1.reverse ++ spread state.2 front := by
    induction front with
    | nil =>
      intro state
      simp [spread]
    | cons r rest ih =>
      intro state
      simp [spread, ih]
  exact hfold ([], false)

theorem length_spread (seen : Bool) (front : List Bool) :
    (spread seen front).length = front.length := by
  induction front generalizing seen with
  | nil => rfl
  | cons r rest ih => simp [spread, ih]

theorem getElem?_spread {n : Nat} (hn : n < front.length) (seen : Bool) :
    (spread seen front)[n]? = some true ↔ seen = true ∨ ∃ m ≤ n, front[m]? = some true := by
  induction front generalizing seen n with
  | nil => simp at hn
  | cons r rest ih =>
    cases n with
    | zero => simp [spread]
    | succ n =>
      rw [spread, List.getElem?_cons_succ, ih (by simpa using hn), Bool.or_eq_true, or_assoc]
      refine or_congr_right ?_
      constructor
      · rintro (hr | ⟨m, hm, hmarked⟩)
        · exact ⟨0, Nat.zero_le _, by simp [hr]⟩
        · exact ⟨m + 1, Nat.succ_le_succ hm, by simpa using hmarked⟩
      · rintro ⟨m, hm, hmarked⟩
        cases m with
        | zero => exact .inl (by simpa using hmarked)
        | succ m => exact .inr ⟨m, Nat.le_of_succ_le_succ hm, by simpa using hmarked⟩

theorem Marks.stepStar (h : Marks path L front) : Marks path (L * ⊤) (stepStar front) where
  length_eq := by rw [stepStar_eq, length_spread, h.length_eq]
  mem_iff xs hxs := by
    have hlen : xs.length < front.length := by
      rw [h.length_eq]
      exact Nat.lt_succ_of_le hxs.length_le
    rw [stepStar_eq, getElem?_spread hlen, mem_mul_top]
    simp only [Bool.false_eq_true, false_or]
    constructor
    · rintro ⟨m, hm, hmarked⟩
      have hys := (List.take_prefix m xs).trans hxs
      have hmin : (xs.take m).length = m := List.length_take_of_le hm
      exact ⟨xs.take m, List.take_prefix m xs, (h.mem_iff _ hys).1 (by rwa [hmin])⟩
    · rintro ⟨ys, hys, hmem⟩
      exact ⟨ys.length, hys.length_le, (h.mem_iff ys (hys.trans hxs)).2 hmem⟩

theorem Marks.joinFronts (hfront : Marks path L front) (hnext : Marks path M next) :
    Marks path (L + M) (joinFronts front next) where
  length_eq := by simp [Glob.joinFronts, hfront.length_eq, hnext.length_eq]
  mem_iff xs hxs := by
    have hlen := Nat.lt_succ_of_le hxs.length_le
    have hf : xs.length < front.length := by rwa [hfront.length_eq]
    have hn : xs.length < next.length := by rwa [hnext.length_eq]
    rw [Language.mem_add, ← hfront.mem_iff xs hxs, ← hnext.mem_iff xs hxs, Glob.joinFronts,
      List.getElem?_zipWith, List.getElem?_eq_getElem hf, List.getElem?_eq_getElem hn]
    simp

/-- No place is marked. -/
theorem Marks.none (h : Marks path L front) : Marks path 0 (front.map fun _ => false) where
  length_eq := by simp [h.length_eq]
  mem_iff xs _ := by simp [List.getElem?_replicate]

theorem Marks.stepSeparator (h : Marks path L front) :
    Marks path (L * separatorLanguage) (stepSeparator path front) :=
  h.stepOctet _

/-- The octets of a text, one after another. -/
theorem Marks.foldl_stepOctet (h : Marks path L front) (bs : Bytes) :
    Marks path (L * {bs}) (bs.foldl (fun front b => Glob.stepOctet (· == b) path front) front) := by
  induction bs generalizing L front with
  | nil => exact h.congr (mul_one L).symm
  | cons b bs ih =>
    refine (ih (h.stepOctet (· == b))).congr ?_
    rw [octetLanguage_beq, mul_assoc, ← singleton_append]
    rfl

-- The recursion is on the tokens, for any marks: each token starts where those before it have led.
mutual

/-- **One token** leads from the beginnings in a language to those in its product with the language
of the token. -/
theorem Marks.step : ∀ (t : Token) {L : Language UInt8} {front : List Bool}, Marks path L front →
    Marks path (L * t.language) (t.step path front)
  | .literal c, _, _, h => by
    rw [Token.step, Token.language]
    exact h.foldl_stepOctet _
  | .any, _, _, h => by
    rw [Token.step, Token.language]
    exact h.stepOctet _
  | .star, _, _, h => by
    rw [Token.step, Token.language]
    exact h.stepStar
  | .recursivePrefix_, _, _, h => by
    rw [Token.step, Token.language]
    refine (h.joinFronts h.stepStar.stepSeparator).congr ?_
    rw [mul_add, mul_one, mul_assoc]
  | .recursiveSuffix, _, _, h => by
    rw [Token.step, Token.language]
    refine h.stepSeparator.stepStar.congr ?_
    rw [mul_assoc]
  | .recursiveMiddle, _, _, h => by
    rw [Token.step, Token.language]
    refine (h.stepSeparator.joinFronts h.stepSeparator.stepStar.stepSeparator).congr ?_
    simp only [mul_add, mul_assoc]
  | .class_ negated ranges, _, _, h => by
    rw [Token.step, Token.language]
    exact h.stepOctet _
  | .alternates branches, L, _, h => by
    rw [Token.step, Token.language]
    split_ifs with hvoid
    · exact h.congr (mul_one L).symm
    · exact (Marks.stepAny branches h h.none).congr (zero_add _)

/-- One of several patterns leads to the beginnings in its product, besides those `reached`
otherwise. -/
theorem Marks.stepAny : ∀ (branches : List (List Token)) {L M : Language UInt8}
    {front reached : List Bool}, Marks path L front → Marks path M reached →
    Marks path (M + L * anyLanguage branches) (stepAny path front reached branches)
  | [], L, M, _, _, _, hr => by
    rw [Glob.stepAny, anyLanguage]
    exact hr.congr (by rw [mul_zero, add_zero])
  | branch :: rest, _, _, _, _, h, hr => by
    rw [Glob.stepAny, anyLanguage]
    split_ifs with hvoid
    · exact Marks.stepAny rest h hr
    · refine (Marks.stepAny rest h (hr.joinFronts (Marks.stepAll branch h))).congr ?_
      rw [mul_add, add_assoc]

/-- **Tokens** lead to the beginnings in the product with their language. -/
theorem Marks.stepAll : ∀ (ts : List Token) {L : Language UInt8} {front : List Bool},
    Marks path L front → Marks path (L * allLanguage ts) (stepAll path front ts)
  | [], L, _, h => by
    rw [Glob.stepAll, allLanguage]
    exact h.congr (mul_one L).symm
  | t :: rest, _, _, h => by
    rw [Glob.stepAll, allLanguage]
    refine (Marks.stepAll rest (Marks.step t h)).congr ?_
    rw [mul_assoc]

end

/-- The last place is marked if the whole path is in the language. -/
theorem Marks.getLast?_iff (h : Marks path L front) :
    front.getLast?.getD false = true ↔ path ∈ L := by
  have hlast : front.getLast? = front[path.length]? := by
    rw [List.getLast?_eq_getElem?, h.length_eq, Nat.add_sub_cancel]
  rw [← h.mem_iff path (List.prefix_refl path), hlast]
  cases front[path.length]? <;> simp

theorem language_of_ne {ts : List Token} (h : ts ≠ [.recursivePrefix_]) :
    language ts = allLanguage ts := by
  unfold language
  split
  · contradiction
  · rfl

/-- **The matcher decides the language of a pattern.** -/
theorem matchTokens_iff (ts : List Token) (path : Bytes) :
    matchTokens ts path = true ↔ path ∈ language ts := by
  unfold matchTokens
  split
  · exact iff_of_true rfl trivial
  · rename_i hne
    rw [language_of_ne hne]
    exact ((Marks.stepAll ts (Marks.start path)).congr (one_mul _)).getLast?_iff

end Glob

end ToolRelay
