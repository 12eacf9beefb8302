import ToolRelay.Proofs.Invocation.Direct
import ToolRelay.Proofs.Text.Replace

/-!
# Converting line breaks there and back

The two conversions are replacements: of CR LF by LF, and after that of LF by CR LF
(`LineBreak.convert_lf_eq_replace`, `LineBreak.convert_crlf_eq_replace`).  A conversion to CR LF
undoes itself before it starts, so it can be repeated and turned back; a conversion to LF undoes it
and nothing more.  No conversion touches anything but CR.

* `LineBreak.toLf_toCrLf` and `LineBreak.toCrLf_toCrLf` : one conversion after the other.
* `LineBreak.filter_toLf` and `LineBreak.filter_toCrLf` : without its CR a text is the same.
* `Direct.conversions_consistent` : all of this about texts, and about what a tool reads.
-/

namespace ToolRelay

namespace LineBreak

/-! ### Conversions as replacements -/

/-- Converting to LF is replacing CR LF by LF. -/
theorem toLf_eq_replaceFrom (s : List Char) :
    Text.replaceFrom ['\r', '\n'] ['\n'] 0 [] s = toLf s := by
  induction hn : s.length using Nat.strong_induction_on generalizing s with
  | _ n ih =>
    cases s with
    | nil => rfl
    | cons c s =>
      rw [List.length_cons] at hn
      by_cases hc : c = '\r' ∧ s.head? = some '\n'
      · -- both characters of an occurrence are passed over at once
        obtain ⟨rfl, hs⟩ := hc
        obtain ⟨s, rfl⟩ := List.head?_eq_some_iff.1 hs
        have hlf : toLf ('\r' :: '\n' :: s) = '\n' :: toLf s := by
          simp [toLf_cons]
        have hrest := ih s.length (by simp at hn; omega) s rfl
        rw [hlf, ← hrest]
        exact Text.replaceFrom_mark '\r' ['\n'] ['\n'] s
      · have hmark : ¬ ['\r', '\n'] <+: c :: s := by
          rintro ⟨after, heq⟩
          simp only [List.cons_append, List.nil_append, List.cons.injEq] at heq
          obtain ⟨rfl, rfl⟩ := heq
          exact hc ⟨rfl, rfl⟩
        have hrest := ih s.length (by omega) s rfl
        rw [Text.replaceFrom, if_neg (mt List.isPrefixOf_iff_prefix.1 hmark),
          Text.replaceFrom_eq_append, hrest, toLf_cons, if_neg hc]
        rfl

/-- Putting a CR before each LF is replacing LF by CR LF. -/
theorem flatMap_eq_replaceFrom (s : List Char) :
    Text.replaceFrom ['\n'] ['\r', '\n'] 0 [] s =
      s.flatMap fun c => if c = '\n' then ['\r', '\n'] else [c] := by
  induction s with
  | nil => rfl
  | cons c s ih =>
    by_cases hc : c = '\n'
    · subst hc
      have hmark := Text.replaceFrom_mark '\n' [] ['\r', '\n'] s
      rw [List.flatMap_cons, if_pos rfl, ← ih, ← hmark]
      rfl
    · have hmark : ¬ ['\n'] <+: c :: s := by
        rw [List.singleton_prefix_cons_iff]
        exact fun h => hc h.symm
      rw [Text.replaceFrom, if_neg (mt List.isPrefixOf_iff_prefix.1 hmark),
        Text.replaceFrom_eq_append, ih, List.flatMap_cons, if_neg hc]
      rfl

theorem toList_convert_lf (s : String) : (convert s .lf).toList = toLf s.toList :=
  String.toList_ofList

theorem toList_convert_crlf (s : String) : (convert s .crlf).toList = toCrLf s.toList :=
  String.toList_ofList

theorem convert_lf_eq_replace (s : String) : convert s .lf = Text.replace "\r\n" "\n" s :=
  congrArg String.ofList (toLf_eq_replaceFrom s.toList).symm

theorem convert_crlf_eq_replace (s : String) :
    convert s .crlf = Text.replace "\n" "\r\n" (Text.replace "\r\n" "\n" s) := by
  rw [← convert_lf_eq_replace, Text.replace, toList_convert_lf, convert, toCrLf,
    ← flatMap_eq_replaceFrom]
  rfl

/-! ### One conversion after the other -/

theorem toLf_toCrLf (s : List Char) : toLf (toCrLf s) = toLf s := by
  obtain ⟨lines, rest, hlines, hrest, rfl⟩ := exists_join s
  have hchop : chop ∘ (chop · ++ ['\r']) = chop := funext fun line => chop_concat (chop line)
  rw [toCrLf_join hlines hrest, toLf_join (not_mem_map_chop_concat hlines) hrest,
    toLf_join hlines hrest, List.map_map, hchop]

theorem toCrLf_toCrLf (s : List Char) : toCrLf (toCrLf s) = toCrLf s := by
  rw [toCrLf, toLf_toCrLf]
  rfl

/-! ### What conversions keep -/

theorem filter_toLf (s : List Char) : (toLf s).filter (· ≠ '\r') = s.filter (· ≠ '\r') := by
  induction s with
  | nil => rfl
  | cons c s ih =>
    rw [toLf_cons]
    by_cases hc : c = '\r'
    · subst hc
      split_ifs
      · rw [ih, List.filter_cons_of_neg (by decide)]
      · rw [List.filter_cons_of_neg (by decide), ih, List.filter_cons_of_neg (by decide)]
    · rw [if_neg fun h => hc h.1, List.filter_cons_of_pos (by simpa using hc), ih,
        List.filter_cons_of_pos (by simpa using hc)]

theorem filter_toCrLf (s : List Char) : (toCrLf s).filter (· ≠ '\r') = s.filter (· ≠ '\r') := by
  rw [← filter_toLf (toCrLf s), toLf_toCrLf, filter_toLf]

/-- Without its CR a text is the same in every form. -/
theorem filter_convert (s : String) (target : LineBreak) :
    (convert s target).toList.filter (· ≠ '\r') = s.toList.filter (· ≠ '\r') := by
  cases target with
  | lf => rw [toList_convert_lf, filter_toLf]
  | mixed => exact (congrArg _ (toList_convert_lf s)).trans (filter_toLf s.toList)
  | crlf => rw [toList_convert_crlf, filter_toCrLf]

/-- LF is counted in what is left of a text without its CR. -/
theorem count_filter (s : List Char) : (s.filter (· ≠ '\r')).count '\n' = s.count '\n' :=
  List.count_filter (by decide)

theorem countCrLf_le_count (s : List Char) : countCrLf s ≤ s.count '\n' := by
  obtain ⟨lines, rest, hlines, hrest, rfl⟩ := exists_join s
  rw [countCrLf_join hlines hrest, count_join hlines hrest]
  exact List.countP_le_length

end LineBreak

namespace Direct

open LineBreak

/-- **Conversions are consistent with one another**, for every text.  They are replacements of CR LF
by LF, and for CR LF then of LF by CR LF.  What is converted to CR LF has a CR before each LF; it
stays as it is when it is converted again, and converting it to LF gives what the text itself
would give.  Every form has the same number of LF, and without its CR it is the same text.  CR LF
does not occur more often than LF, so that the number of the other LF is the difference.  What
reaches the standard input of a tool is the conversion to LF, although a text that is not found to
need it is not converted. -/
theorem conversions_consistent (s : String) :
    (convert s .lf = Text.replace "\r\n" "\n" s ∧ convert s .mixed = convert s .lf ∧
      convert s .crlf = Text.replace "\n" "\r\n" (Text.replace "\r\n" "\n" s)) ∧
    countCrLf s.toList ≤ s.toList.count '\n' ∧
    (∀ before after, (convert s .crlf).toList = before ++ '\n' :: after → ['\r'] <:+ before) ∧
    convert (convert s .crlf) .crlf = convert s .crlf ∧
    convert (convert s .crlf) .lf = convert s .lf ∧
    (∀ target, (convert s target).toList.count '\n' = s.toList.count '\n' ∧
      (convert s target).toList.filter (· ≠ '\r') = s.toList.filter (· ≠ '\r')) ∧
    toolText s = convert s .lf ∧
    ∀ (host : Host) (timeoutMs : Nat) (i : Invocation) (program : String) (args : List String)
      (process : Process), i.stdinText = some s → i.argv = program :: args →
      host.start (command program args i.workingDir) = .ok process →
      invoke host timeoutMs i = outcome program timeoutMs
        (process.course [.bytes 0 (Utf8.encode (convert s .lf)), .close 0]) := by
  refine ⟨⟨convert_lf_eq_replace s, rfl, convert_crlf_eq_replace s⟩, countCrLf_le_count s.toList,
    ?_, ?_, ?_, ?_, toolText_eq s, ?_⟩
  · intro before after heq
    by_contra hbefore
    refine not_hasBreakWithout_toCrLf s.toList ⟨before, ⟨after, ?_⟩, hbefore⟩
    rw [← toList_convert_crlf, heq, List.append_assoc, List.singleton_append]
  · rw [← String.toList_inj, toList_convert_crlf, toList_convert_crlf, toCrLf_toCrLf]
  · rw [← String.toList_inj, toList_convert_lf, toList_convert_crlf, toLf_toCrLf,
      toList_convert_lf]
  · intro target
    have hfilter := filter_convert s target
    refine ⟨?_, hfilter⟩
    rw [← count_filter, hfilter, count_filter]
  · intro host timeoutMs i program args process hs hargv hstart
    have hfeeds : feeds i = [.bytes 0 (Utf8.encode (convert s .lf)), .close 0] := by
      rw [feeds, hs, ← toolText_eq]
    rw [invoke_of_start hargv hstart, hfeeds]

end Direct

end ToolRelay
