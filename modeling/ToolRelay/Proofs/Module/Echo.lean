import ToolRelay.Module.Echo
import ToolRelay.Proofs.Dispatch.Arguments
import ToolRelay.Proofs.Dispatch.Respelling
import ToolRelay.Proofs.Invocation.InProcess
import ToolRelay.Proofs.Text.Lossy

/-!
# The echo module and the two ways to a document

A tool gets a document as text on its standard input, or as a path at the end of its argument
vector.  The echo module gives back the text in both cases: an absolute path is no flag, and seen
from the working directory it is what it was.

* `Echo.run_of_stdin` and `Echo.run_of_file` : what the module does with the two.
* `Dispatcher.value_runDocument` : what comes of a document that is run by a module.
* `Dispatcher.delivery_agrees` : the module gives the same output in both ways.
-/

namespace ToolRelay

/-! ### What the module does -/

namespace Echo

variable {host : Host} {call : ModuleCall} {args : List String} {text file : String}

theorem isFlag_iff {arg : String} : isFlag arg = true ↔ ['-'] <+: arg.toList := by
  rw [isFlag, beq_iff_eq, List.head?_eq_some_iff]
  exact exists_congr fun _ => eq_comm

/-- With standard input the arguments are looked through for flags only. -/
theorem run_of_stdin (h : call.stdin = some text) :
    (module_ host).run call =
      ⟨call.stdout ++ text, call.stderr ++ flagLine (call.args.filter isFlag), call.searchPath,
        none⟩ := by
  have houtput : output host call = .ok text := by
    rw [output, h]
  simp only [module_, houtput]

/-- Behind flags only, a file is read. -/
theorem run_of_file (h : call.stdin = none) (hargs : call.args = args ++ [file])
    (hflags : ∀ arg ∈ args, isFlag arg = true) (hfile : isFlag file = false)
    (hread : host.readText (call.resolve (Path.ofString file)) = .ok text) :
    (module_ host).run call =
      ⟨call.stdout ++ text, call.stderr ++ flagLine args, call.searchPath, none⟩ := by
  have hkept : call.args.filter isFlag = args := by
    rw [hargs, List.filter_append, List.filter_eq_self.2 hflags,
      List.filter_cons_of_neg (by simp [hfile]), List.filter_nil, List.append_nil]
  have hfiles : call.args.filter (!isFlag ·) = [file] := by
    have hnone : args.filter (!isFlag ·) = [] :=
      List.filter_eq_nil_iff.2 fun arg hm => by simp [hflags arg hm]
    rw [hargs, List.filter_append, hnone, List.filter_cons_of_pos (by simp [hfile])]
    rfl
  have houtput : output host call = .ok text := by
    rw [output, h, hfiles, readAll]
    simp only [hread]
    show Except.ok (String.join [text]) = Except.ok text
    simp [String.join]
  simp only [module_, hkept, houtput]

end Echo

/-! ### Paths as arguments -/

namespace Path

variable {p : Path}

/-- A path that is text is read back from the way in which it is displayed. -/
theorem ofString_display (h : Utf8.WellFormed p.bytes) : ofString p.display = p := by
  obtain ⟨name, hname⟩ := h
  rw [display, ← hname, Utf8.lossy_encode, ofString, hname]

theorem join_of_isAbsolute (h : p.isAbsolute = true) (dir : Path) : dir.join p = p := by
  rw [join, if_pos h]

/-- An absolute path begins with the separator, so it is not taken for a flag. -/
theorem isFlag_display (h : p.isAbsolute = true) : Echo.isFlag p.display = false := by
  obtain ⟨bs, hbs⟩ := List.head?_eq_some_iff.1 (eq_of_beq h)
  have hlist : p.display.toList = '/' :: (Utf8.lossy bs).toList := by
    rw [display, hbs]
    exact @Utf8.toList_lossy_append_cons [] bs _ (by decide)
  rw [Echo.isFlag, hlist]
  rfl

end Path

/-! ### A document that is run by a module -/

/-- An invocation of a module that ends without a fault. -/
theorem InProcess.invoke_of_module {b : InProcess} {i : Invocation} {name : String}
    {args : List String} {m : ToolModule} (hname : i.argv = name :: args)
    (hm : b.registry.get? name = some m) (hf : (m.run (b.beginning i)).fault = none) :
    b.invoke i =
      (.ok (.ofOutput (m.run (b.beginning i)).stdout (m.run (b.beginning i)).stderr), b) := by
  have hrun : m.run ⟨i.argv, i.workingDir, i.stdinText, b.searchPath, "", ""⟩ =
      m.run (b.beginning i) := rfl
  unfold invoke conduct
  rw [hname]
  simp only [hm, withPath, ToolModule.conduct, Traced.value_bind, Traced.value_act,
    Traced.value_pure]
  rw [← hname, hrun, hf]
  rfl

namespace Dispatcher

open Preparation

variable {host : Host} {d : Dispatcher} {document : Document} {path : Path} {useStdin : Bool}
  {extra : List String}

/-- The run of the tool on a document that is not left out. -/
def runFor (host : Host) (d : Dispatcher) (document : Document) (useStdin : Bool)
    (extra : List String) : Prepared :=
  runOn d.tool d.store.runtime (d.preparation.recordFor host document)
    (absolutePath host document).value document.source useStdin extra

/-- The arguments for a document, without the name of the module and the part for the document. -/
def leading (host : Host) (d : Dispatcher) (document : Document) (extra : List String) :
    List String :=
  d.tool.args ++ (d.preparation.recordFor host document).extraArgs ++ extra

theorem argv_runFor
    (hway : Strategy.select (d.preparation.recordFor host document) d.store.runtime = .inProcess) :
    (runFor host d document useStdin extra).request.argv =
      d.tool.module :: (leading host d document extra ++
        documentArguments d.tool (absolutePath host document).value useStdin) := by
  simp [runFor, runOn, hway, arguments, head, leading]

/-- **A document that no filter skips and that is run in this program** comes to what its module
does. -/
theorem value_runDocument {m : ToolModule} {r : ModuleRun}
    (hskip : d.preparation.Decides host document none)
    (hway : Strategy.select (d.preparation.recordFor host document) d.store.runtime = .inProcess)
    (hm : d.modules.registry.get? d.tool.module = some m)
    (hrun : m.run (d.modules.beginning (runFor host d document useStdin extra).request) = r)
    (hf : r.fault = none) :
    (d.runDocument host document useStdin extra).value =
      (.ok (some (.ofOutput r.stdout r.stderr)), d) := by
  subst hrun
  have hnone := (skip?_document_iff useStdin extra).2 hskip
  have hinvoke := InProcess.invoke_of_module (argv_runFor hway) hm hf
  have hstrategy : (runFor host d document useStdin extra).strategy = .inProcess := hway
  have hperform : d.perform host (runFor host d document useStdin extra) =
      (.ok (.ofOutput
        (m.run (d.modules.beginning (runFor host d document useStdin extra).request)).stdout
        (m.run (d.modules.beginning (runFor host d document useStdin extra).request)).stderr),
        d) := by
    rw [perform_inProcess hstrategy, hinvoke]
  rw [runDocument, Traced.value_bind]
  cases h : (d.preparation.document host document useStdin extra).value with
  | error reason =>
    rw [h] at hnone
    contradiction
  | ok prepared =>
    have hprepared : prepared = runFor host d document useStdin extra := eq_runOn_of_document h
    rw [hprepared]
    simp only [Traced.value_bind, Traced.value_pure, execute_dispatcher, hperform]
    rfl

/-- A document is a file: it has an absolute path in normal form, which is text, and its text is
what the file holds. -/
structure OnDisk (host : Host) (document : Document) (path : Path) : Prop where
  /-- The path of the document. -/
  path_eq : document.path = some path
  /-- It is absolute. -/
  isAbsolute : path.isAbsolute = true
  /-- It is in normal form. -/
  normalize_eq : path.normalize = path
  /-- It is text. -/
  wellFormed : Utf8.WellFormed path.bytes
  /-- The file holds the text of the document. -/
  readFile_eq : host.readFile path = .ok (Utf8.encode document.source)

theorem OnDisk.absolutePath (h : OnDisk host document path) :
    (absolutePath host document).value = some path := by
  simp only [Preparation.absolutePath, h.path_eq, Host.absolutize_of_isAbsolute h.isAbsolute,
    h.normalize_eq, Traced.value_bind, Traced.value_pure]

theorem OnDisk.readText (h : OnDisk host document path) :
    host.readText path = .ok document.source := by
  simp only [Host.readText, h.readFile_eq, bind, Except.bind, Utf8.decode?_encode]

/-- **The echo module gives the same output in both ways.**  A document is a file whose text is its
own, no filter skips it, and its record asks for the module in this program; the arguments of the
tool, of the settings and of the caller are flags.  With its text on standard input and without it,
whatever the arguments for standard input are, the run succeeds and standard output is the text.
Without standard input the flags are told on standard error, in order, if there are any. -/
theorem delivery_agrees (hdisk : OnDisk host document path)
    (hskip : d.preparation.Decides host document none)
    (hway : Strategy.select (d.preparation.recordFor host document) d.store.runtime = .inProcess)
    (hname : d.tool.module = "echo")
    (hecho : d.modules.registry.get? "echo" = some (Echo.module_ host))
    (hflags : ∀ arg ∈ leading host d document extra, ['-'] <+: arg.toList) :
    (∃ errors, (d.runDocument host document true extra).value =
      (.ok (some ⟨document.source, errors, none, none⟩), d)) ∧
    (d.runDocument host document false extra).value =
      (.ok (some ⟨document.source,
        if leading host d document extra = [] then ""
        else "flags: " ++ " ".intercalate (leading host d document extra) ++ "\n", none, none⟩),
        d) := by
  have hm : d.modules.registry.get? d.tool.module = some (Echo.module_ host) := by
    rw [hname]
    exact hecho
  constructor
  · set call := d.modules.beginning (runFor host d document true extra).request
    have hstdin : call.stdin = some document.source := rfl
    have hrun := @Echo.run_of_stdin host call _ hstdin
    have hresult := value_runDocument hskip hway hm hrun rfl
    exact ⟨_, hresult⟩
  · set call := d.modules.beginning (runFor host d document false extra).request with hcall
    have hargs : call.args = leading host d document extra ++ [path.display] := by
      rw [hcall, ModuleCall.args, InProcess.beginning, argv_runFor hway, hdisk.absolutePath]
      rfl
    have hread : host.readText (call.resolve (Path.ofString path.display)) =
        .ok document.source := by
      rw [Path.ofString_display hdisk.wellFormed, ModuleCall.resolve,
        Path.join_of_isAbsolute hdisk.isAbsolute, hdisk.readText]
    have hstdin : call.stdin = none := rfl
    have hrun := Echo.run_of_file hstdin hargs
      (fun arg hm => Echo.isFlag_iff.2 (hflags arg hm)) (Path.isFlag_display hdisk.isAbsolute) hread
    exact value_runDocument hskip hway hm hrun rfl

/-! ### A document in a workspace with arguments of its own -/

/-- A computer on which every file holds the same two lines. -/
def linesHost : Host :=
  { Store.rootHost with readFile := fun _ => .ok (Utf8.encode "a\r\nb") }

/-- The echo tool with an argument. -/
def echoSetup : Setup where
  tool := { ToolSpec.standard with args := ["--check"], stdinArgs := ["as", "\x7bpath\x7d"] }
  global := .empty
  environment := ⟨.standard, .standard, []⟩
  registry := .builtins linesHost
  searchPath := []
  runtime := Path.ofString "/opt/r"

/-- The echo tool with a workspace that adds an argument. -/
def echoDispatcher : Dispatcher :=
  ((echoSetup.build linesHost).value.replace linesHost
    (some [⟨"/w", none, none, some ["-v"], none, none⟩])).value

/-- A document in that workspace. -/
def linesDocument : Document := .ofPath (Path.ofString "/w/- x.txt") "a\r\nb"

theorem delivery_agrees_lines :
    (∃ errors, (echoDispatcher.runDocument linesHost linesDocument true ["-q"]).value =
      (.ok (some ⟨"a\r\nb", errors, none, none⟩), echoDispatcher)) ∧
    (echoDispatcher.runDocument linesHost linesDocument false ["-q"]).value =
      (.ok (some ⟨"a\r\nb", "flags: --check -v -q\n", none, none⟩), echoDispatcher) := by
  have hdisk : OnDisk linesHost linesDocument (Path.ofString "/w/- x.txt") :=
    ⟨rfl, by decide +kernel, by decide +kernel, Utf8.wellFormed_encode _, rfl⟩
  have hleading : leading linesHost echoDispatcher linesDocument ["-q"] =
      ["--check", "-v", "-q"] := by decide +kernel
  have hflags : ∀ arg ∈ leading linesHost echoDispatcher linesDocument ["-q"],
      ['-'] <+: arg.toList := by
    rw [hleading]
    decide
  have h := delivery_agrees hdisk ((skip?_document_iff false []).1 (by decide +kernel))
    (by decide +kernel) rfl rfl hflags
  rw [hleading] at h
  exact h

end Dispatcher

end ToolRelay
