import ToolRelay.Proofs.Runner.Serve
import ToolRelay.Remote.Conversation

/-!
# Conversations with a process that is a runner

`Process.Serves` says of a child process that it is a runner: what it writes is what
`Runner.serve` writes for the lines it has been given, and it writes it in time.  A conversation is
in sync when every answer to what has been written so far has been taken
(`Conversation.InSync`).

* `timedLines_eq` : the lines of an output are the messages in it, however the octets came;
* `Conversation.InSync.exchange` : in a conversation that is in sync, a line with one answer can be
  written, this answer is the next line that is received, and the conversation is in sync again.
-/

namespace ToolRelay

open Runner

/-- Octets written to a process, each time with the moment. -/
abbrev Writes := List (Moment × Bytes)

/-- What is done to the standard input of the process. -/
def Writes.feeds (ws : Writes) : List Feed := ws.map fun w => .bytes w.1 w.2

/-- All that is written. -/
def Writes.input (ws : Writes) : Bytes := ws.flatMap (·.2)

/-- The process is a runner with the backend `b`, and nothing it writes comes later than
`timeoutMs` milliseconds after the line it answers; 0 stands for no limit. -/
structure Process.Serves (process : Process) (b : InProcess) (timeoutMs : Nat) : Prop where
  /-- It writes the answers to the lines that it has been given. -/
  answers (ws : Writes) (hw : Whole ws.input) (ho : Open ws.input) :
    (process.course ws.feeds).output.flatMap (·.2) =
      Utf8.encode (String.join (serve b ws.input).value)
  /-- It writes them in time. -/
  prompt (ht : timeoutMs ≠ 0) (ws : Writes) (now : Moment) (line : Bytes) :
    ∀ e ∈ (process.course (ws ++ [(now, line)] : Writes).feeds).output, e.1 ≤ now + timeoutMs
  /-- It takes what is written to it until it is asked to stop. -/
  listens (ws : Writes) (ho : Open ws.input) :
    ∃ moment, (process.course ws.feeds).delivery = .complete moment
  /-- What it writes can be read. -/
  readable (ws : Writes) : (process.course ws.feeds).readRefusal = none

/-- A runner with the backend `b` that answers at once. -/
def Process.serving (b : InProcess) : Process where
  course feeds :=
    let input := feeds.flatMap fun
      | .bytes _ content => content
      | .close _ => []
    ⟨[(0, Utf8.encode (String.join (serve b input).value))], [], none, none, none, none, none,
      .complete 0⟩

theorem Process.serving_serves (b : InProcess) (timeoutMs : Nat) :
    (serving b).Serves b timeoutMs where
  answers ws _ _ := by
    simp only [serving, Writes.feeds, List.flatMap_map, List.flatMap_singleton]
    rfl
  prompt _ ws now line e he := by
    obtain rfl := List.mem_singleton.1 he
    exact Nat.zero_le _
  listens _ _ := ⟨0, rfl⟩
  readable _ := rfl

namespace Remote

namespace Conversation

/-- Whole lines have been written to the runner, none of which asks it to stop, and all its
answers have been taken. -/
def InSync (c : Conversation) (b : InProcess) : Prop :=
  ∃ ws : Writes, c.feeds = ws.feeds ∧ Whole ws.input ∧ Open ws.input ∧
    c.taken = (serve b ws.input).value.length

theorem inSync_start (process : Process) (b : InProcess) : (start process).InSync b :=
  ⟨[], rfl, whole_nil, fun _ h => absurd h List.not_mem_nil, rfl⟩

/-! ### The lines of an output -/

/-- One step through the octets of an output: the lines before, last first, and the octets of the
line that is not complete, last first. -/
def lineStep : List (Moment × Bytes) × Bytes → Moment × UInt8 → List (Moment × Bytes) × Bytes
  | (lines, open_), (moment, b) =>
    if b = 0x0A then ((moment, dropCr open_.reverse) :: lines, []) else (lines, b :: open_)

theorem timedLines_of_foldl {output : List (Moment × Bytes)} {lines : List (Moment × Bytes)}
    (h : (timedBytes output).foldl lineStep ([], []) = (lines, [])) (finish : Option Moment) :
    timedLines output finish = lines.reverse := by
  unfold lineStep at h
  rw [timedLines, h]
  cases finish <;> simp

theorem foldl_lineStep_of_not_mem {t : List (Moment × UInt8)} (h : newline ∉ t.map (·.2))
    (lines : List (Moment × Bytes)) (open_ : Bytes) :
    t.foldl lineStep (lines, open_) = (lines, (t.map (·.2)).reverse ++ open_) := by
  induction t generalizing open_ with
  | nil => rfl
  | cons e t ih =>
    simp only [List.map_cons, List.mem_cons, not_or] at h
    rw [List.foldl_cons, lineStep, if_neg (Ne.symm h.1), ih h.2]
    simp

/-- However the octets came, the messages in them are the lines. -/
theorem exists_foldl_lineStep {bodies : List Bytes} (hn : ∀ body ∈ bodies, newline ∉ body)
    {t : List (Moment × UInt8)} (ht : t.map (·.2) = bodies.flatMap (· ++ [newline]))
    (lines : List (Moment × Bytes)) :
    ∃ timed : List (Moment × Bytes), t.foldl lineStep (lines, []) = (timed.reverse ++ lines, []) ∧
      timed.map (·.2) = bodies.map dropCr ∧ ∀ e ∈ timed, e.1 ∈ t.map (·.1) := by
  induction bodies generalizing t lines with
  | nil =>
    obtain rfl := List.map_eq_nil_iff.1 ht
    exact ⟨[], rfl, rfl, fun _ h => absurd h List.not_mem_nil⟩
  | cons body bodies ih =>
    rw [List.flatMap_cons, List.append_assoc, List.singleton_append, List.map_eq_append_iff] at ht
    -- the octets of the first message, its line feed, and the octets of the others
    obtain ⟨before, rest, rfl, hb, hr⟩ := ht
    obtain ⟨e, after, rfl, he, ha⟩ := List.map_eq_cons_iff.1 hr
    obtain ⟨timed, hf, hs, hm⟩ := ih (fun b h => hn b (List.mem_cons_of_mem _ h)) ha
      ((e.1, dropCr body) :: lines)
    have hstep : lineStep (lines, body.reverse) e = ((e.1, dropCr body) :: lines, []) := by
      rw [lineStep, if_pos he, List.reverse_reverse]
    refine ⟨(e.1, dropCr body) :: timed, ?_, ?_, ?_⟩
    · have hbefore : newline ∉ before.map (·.2) := by
        rw [hb]
        exact hn body (List.mem_cons_self ..)
      rw [List.foldl_append, foldl_lineStep_of_not_mem hbefore, hb, List.append_nil,
        List.foldl_cons, hstep, hf]
      simp
    · rw [List.map_cons, List.map_cons, hs]
    · simp only [List.forall_mem_cons]
      exact ⟨by simp, fun e h => by simp [hm e h]⟩

theorem dropCr_encode {s : String} (h : Json.Grammar.NoControl s.toList) :
    dropCr (Utf8.encode s) = Utf8.encode s := by
  rw [dropCr, if_neg]
  exact fun hl => Wire.not_mem_encode h (by decide) (List.mem_of_getLast? hl)

theorem exists_bodies {outs : List String} (h : ∀ out ∈ outs, Wire.IsLine out) :
    ∃ bodies : List String, outs = bodies.map (· ++ "\n") ∧
      ∀ body ∈ bodies, Json.Grammar.NoControl body.toList := by
  induction outs with
  | nil => exact ⟨[], rfl, fun _ h => absurd h List.not_mem_nil⟩
  | cons out outs ih =>
    obtain ⟨body, rfl, hb, -⟩ := h out (List.mem_cons_self ..)
    obtain ⟨bodies, rfl, hbs⟩ := ih fun out ho => h out (List.mem_cons_of_mem _ ho)
    exact ⟨body :: bodies, rfl, List.forall_mem_cons.2 ⟨hb, hbs⟩⟩

theorem encode_join (bodies : List String) :
    Utf8.encode (String.join (bodies.map (· ++ "\n"))) =
      (bodies.map Utf8.encode).flatMap (· ++ [newline]) := by
  induction bodies with
  | nil => rfl
  | cons body bodies ih =>
    rw [List.map_cons, String.join_cons, Utf8.encode_append, Utf8.encode_append, ih]
    rfl

/-- **The lines of an output are the messages in it**, each with the moment of one of the
writes. -/
theorem timedLines_eq {bodies : List String}
    (hb : ∀ body ∈ bodies, Json.Grammar.NoControl body.toList) {output : List (Moment × Bytes)}
    (h : output.flatMap (·.2) = Utf8.encode (String.join (bodies.map (· ++ "\n"))))
    (finish : Option Moment) :
    (timedLines output finish).map (·.2) = bodies.map Utf8.encode ∧
      ∀ e ∈ timedLines output finish, ∃ w ∈ output, w.1 = e.1 := by
  have ht : (timedBytes output).map (·.2) = (bodies.map Utf8.encode).flatMap (· ++ [newline]) := by
    rw [← encode_join, ← h, timedBytes, List.map_flatMap]
    simp [Function.comp_def]
  have hn : ∀ body ∈ bodies.map Utf8.encode, newline ∉ body := by
    intro body hm
    obtain ⟨s, hs, rfl⟩ := List.mem_map.1 hm
    exact Wire.not_mem_encode (hb s hs) (by decide)
  obtain ⟨timed, hf, hs, hm⟩ := exists_foldl_lineStep hn ht []
  rw [List.append_nil] at hf
  rw [timedLines_of_foldl hf, List.reverse_reverse]
  refine ⟨?_, fun e he => ?_⟩
  · rw [hs, List.map_map]
    exact List.map_congr_left fun s h => dropCr_encode (hb s h)
  · obtain ⟨b, hbm, hbe⟩ := List.mem_map.1 (hm e he)
    obtain ⟨w, hw, hbw⟩ := List.mem_flatMap.1 hbm
    obtain ⟨o, -, rfl⟩ := List.mem_map.1 hbw
    exact ⟨w, hw, hbe⟩

/-- The last of several messages is the line after the others. -/
theorem exists_drop_timedLines {outs : List String} {body : String}
    (houts : ∀ out ∈ outs ++ [body ++ "\n"], Wire.IsLine out) {output : List (Moment × Bytes)}
    (h : output.flatMap (·.2) = Utf8.encode (String.join (outs ++ [body ++ "\n"])))
    (finish : Option Moment) :
    ∃ w ∈ output, (timedLines output finish).drop outs.length = [(w.1, Utf8.encode body)] := by
  obtain ⟨bodies, hbodies, hctl⟩ := exists_bodies houts
  rw [hbodies] at h
  obtain ⟨hsnd, hfst⟩ := timedLines_eq hctl h finish
  obtain ⟨old, new, rfl, hold, hnew⟩ := List.map_eq_append_iff.1 hbodies.symm
  obtain ⟨body', rest, rfl, hbody, hrest⟩ := List.map_eq_cons_iff.1 hnew
  obtain rfl := List.map_eq_nil_iff.1 hrest
  obtain rfl : body' = body := by simpa using hbody
  -- what is left of the lines is one message
  have hdrop := congrArg (List.drop outs.length) hsnd
  rw [← List.map_drop, List.map_append, List.drop_left' (by rw [← hold]; simp)] at hdrop
  obtain ⟨e, rest, he, hbe, hrest⟩ := List.map_eq_cons_iff.1 hdrop
  obtain rfl := List.map_eq_nil_iff.1 hrest
  obtain ⟨w, hw, hwe⟩ := hfst e (List.mem_of_mem_drop (he ▸ List.mem_cons_self ..))
  exact ⟨w, hw, by rw [he, hwe, ← hbe]⟩

/-! ### One exchange -/

/-- Where the system does not refuse to read, all lines come, whatever comes after them. -/
theorem exists_arrivals_eq {course : Course} (h : course.readRefusal = none) :
    ∃ last, arrivals course =
      (timedLines course.output course.outputEnd).map (fun line => (line.1, .ok line.2)) ++ last := by
  refine ⟨(lastArrival? course).toList, ?_⟩
  simp only [arrivals, h, Option.all_none]
  rw [List.takeWhile_eq_self_iff.2 fun _ _ => rfl]

/-- **One exchange.**  A line that has one answer can be written to a runner in sync; this answer
is what is received, and the conversation is in sync again. -/
theorem InSync.exchange {c : Conversation} {b : InProcess} {timeoutMs : Nat} (hc : c.InSync b)
    (hs : c.process.Serves b timeoutMs) {line body : String}
    (hl : inputLines (Utf8.encode (line ++ "\n")) = [Utf8.encode (line ++ "\n")])
    (hstop : stops (Utf8.encode (line ++ "\n")) = false)
    (ho : output b (Utf8.encode (line ++ "\n")) = [body ++ "\n"])
    (hb : Text.isBlankText body = false) :
    ∃ c₁ c₂, c.send (line ++ "\n") = (.ok (), c₁) ∧ c₁.receive timeoutMs = (.ok body, c₂) ∧
      c₂.process = c.process ∧ c₂.InSync b := by
  obtain ⟨ws, hfeeds, hw, hopen, htaken⟩ := hc
  -- everything that has been written when the line has been sent
  obtain ⟨ws', hws'⟩ : ∃ ws' : Writes, ws' = ws ++ [(c.now, Utf8.encode (line ++ "\n"))] := ⟨_, rfl⟩
  have hinput : ws'.input = ws.input ++ Utf8.encode (line ++ "\n") := by
    simp [hws', Writes.input]
  have hlines : inputLines ws'.input = inputLines ws.input ++ [Utf8.encode (line ++ "\n")] := by
    rw [hinput, (cut_inputLines ws.input).inputLines_append hw, hl]
  have hw' : Whole ws'.input := by
    rw [hinput, Utf8.encode_append]
    exact hw.append (whole_line _)
  have hopen' : Open ws'.input := by
    rw [Open, hlines, List.forall_mem_append]
    exact ⟨hopen, by simpa using hstop⟩
  have hserve : (serve b ws'.input).value = (serve b ws.input).value ++ [body ++ "\n"] := by
    rw [serve_of_open b hopen', serve_of_open b hopen, hlines, List.flatMap_append,
      List.flatMap_singleton, ho]
  have htell : c.tell (line ++ "\n") = { c with feeds := ws'.feeds } := by
    rw [tell, hfeeds, hws', Writes.feeds, Writes.feeds, List.map_append]
    rfl
  obtain ⟨moment, hdelivery⟩ := hs.listens ws' hopen'
  -- the answer is the only line that has not been taken
  have hmem : ∀ out ∈ (serve b ws'.input).value, Wire.IsLine out :=
    fun _ h => isLine_of_mem_serve h
  have hout := hs.answers ws' hw' hopen'
  rw [hserve] at hmem hout
  obtain ⟨w, hwo, hdrop⟩ :=
    exists_drop_timedLines hmem hout (c.process.course ws'.feeds).outputEnd
  obtain ⟨last, harrivals⟩ := exists_arrivals_eq (hs.readable ws')
  have hlength : c.taken ≤
      (timedLines (c.process.course ws'.feeds).output
        (c.process.course ws'.feeds).outputEnd).length := by
    by_contra hlt
    rw [← htaken, List.drop_eq_nil_of_le (by omega)] at hdrop
    contradiction
  have htime :
      (if timeoutMs = 0 then none else some (max c.now moment + timeoutMs)).any (· < w.1) =
        false := by
    split
    · rfl
    · rename_i ht
      have hprompt := hs.prompt ht ws c.now _ w (hws' ▸ hwo)
      simp only [Option.any_some, decide_eq_false_iff_not, Nat.not_lt]
      exact hprompt.trans (Nat.add_le_add_right (Nat.le_max_left ..) _)
  let c₁ : Conversation := ⟨c.process, ws'.feeds, max c.now moment, c.taken⟩
  refine ⟨c₁, ⟨c.process, ws'.feeds, max c₁.now w.1, c.taken + 1⟩, ?_, ?_, rfl, ws', rfl, hw',
    hopen', ?_⟩
  · rw [send, htell]
    simp only [course, hdelivery]
    rfl
  · rw [receive, course, harrivals, List.drop_append_of_le_length (by simpa using hlength),
      ← List.map_drop]
    simp only [c₁, htaken] at hdrop ⊢
    rw [hdrop]
    simp only [List.map_cons, List.map_nil, List.cons_append, List.nil_append, firstLine, htime]
    simp [Utf8.decode?_encode, hb, advance]
  · rw [hserve, List.length_append, htaken]
    rfl

end Conversation

end Remote

end ToolRelay
