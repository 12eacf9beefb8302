import ToolRelay.Invocation.Direct
import ToolRelay.Proofs.Text.LineBreak

/-!
# The line breaks of what a tool reads

The text on the standard input of a tool is meant to have LF as its only line break.  The
conversion to LF takes one CR away before each LF, so a text in which two CR stand before an LF
keeps CR LF there, and only such a text does.

* `Direct.breaks_lf_iff` : where CR CR LF does not occur, conversions do what they are meant to do,
  and a tool reads LF only.
* `Direct.breaks_mixed_doubled` : with CR CR LF a tool gets a mixture.
-/

namespace ToolRelay

namespace Direct

open LineBreak

variable {s : String}

/-- Two CR stand before an LF. -/
def HasDoubledCr (s : String) : Prop := ['\r', '\r', '\n'] <:+: s.toList

theorem toList_convert_of_ne {target : LineBreak} (h : target ≠ .crlf) :
    (convert s target).toList = toLf s.toList := by
  cases target with
  | lf | mixed => exact String.toList_ofList
  | crlf => contradiction

/-- A text without CR LF reaches the tool as it is, which is what converting it gives. -/
theorem toolText_eq (s : String) : toolText s = convert s .lf := by
  rw [toolText]
  split
  · rename_i h
    rw [detect_eq_lf_iff, ← countCrLf_pos_iff, Nat.not_lt, Nat.le_zero] at h
    rw [convert, (toLf_eq_self_iff _).2 h, String.ofList_toList]
  · rfl
  · rfl

/-- **A tool reads LF as the only line break exactly where CR CR LF does not occur.**  Converting
to LF, or from a mixture, leaves CR LF exactly where two CR stood before LF; otherwise what is
converted has LF only and converting it again changes nothing.  Both kinds of breaks come out if
another LF stands elsewhere, but never where CR LF is asked for. -/
theorem breaks_lf_iff (s : String) :
    (∀ target, target ≠ .crlf →
      (['\r', '\n'] <:+: (convert s target).toList ↔ HasDoubledCr s) ∧
      (detect (convert s target) = .lf ↔ ¬ HasDoubledCr s) ∧
      (convert (convert s target) .lf = convert s target ↔ ¬ HasDoubledCr s) ∧
      (detect (convert s target) = .mixed ↔
        HasDoubledCr s ∧ HasBreakWithout ['\r', '\r'] s.toList)) ∧
    detect (convert s .crlf) ≠ .mixed ∧
    (∀ (host : Host) (timeoutMs : Nat) (i : Invocation) (program : String) (args : List String)
      (process : Process), i.stdinText = some s → i.argv = program :: args →
      host.start (command program args i.workingDir) = .ok process →
      invoke host timeoutMs i = outcome program timeoutMs
        (process.course [.bytes 0 (Utf8.encode (toolText s)), .close 0])) ∧
    (['\r', '\n'] <:+: (toolText s).toList ↔ HasDoubledCr s) := by
  refine ⟨fun target ht => ?_, ?_, ?_, ?_⟩
  · have hlist := toList_convert_of_ne (s := s) ht
    have hpair : ['\r', '\n'] <:+: (convert s target).toList ↔ HasDoubledCr s := by
      rw [hlist]
      exact infix_toLf_iff _
    refine ⟨hpair, (detect_eq_lf_iff _).trans (not_congr hpair), ?_, ?_⟩
    · -- a text is its own conversion exactly if it holds no CR LF
      rw [← String.toList_inj, toList_convert_of_ne (by decide), toLf_eq_self_iff, ← hpair,
        ← countCrLf_pos_iff, Nat.not_lt, Nat.le_zero]
    · rw [detect_eq_mixed_iff, hpair, hlist, hasBreakWithout_toLf_iff]
  · rw [Ne, detect_eq_mixed_iff, convert, String.toList_ofList]
    exact fun h => not_hasBreakWithout_toCrLf _ h.2
  · intro host timeoutMs i program args process hs hargv hstart
    rw [invoke_of_start hargv hstart, feeds, hs]
  · rw [toolText_eq, toList_convert_of_ne (by decide)]
    exact infix_toLf_iff _

/-- With two CR before an LF the conversion to LF gives a mixture, and so a tool reads one. -/
theorem breaks_mixed_doubled :
    ¬ ∀ s : String,
      (∀ target, target ≠ .crlf → ¬ ['\r', '\n'] <:+: (convert s target).toList ∧
        detect (convert s target) = .lf ∧
        convert (convert s target) .lf = convert s target) ∧
      (∀ target, detect (convert s target) ≠ .mixed) ∧
      ¬ ['\r', '\n'] <:+: (toolText s).toList := by
  intro h
  have hmixed : detect (convert "\r\r\n\n" .lf) = .mixed := by decide +kernel
  exact (h "\r\r\n\n").2.1 .lf hmixed

end Direct

end ToolRelay
