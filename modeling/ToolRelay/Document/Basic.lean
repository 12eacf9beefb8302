import ToolRelay.Document.Delimiters
import ToolRelay.Document.Exclude
import ToolRelay.Settings.Choices
import ToolRelay.Path.Normal
import ToolRelay.Uri.File

/-!
# Documents

A document as the editor presents it, and what can be told about it before a tool is run on it.
-/

namespace ToolRelay

/-- The first problem that a check finds in a text, in words. -/
def SyntaxCheckKind.check (kind : SyntaxCheckKind) (source : String) : Option String :=
  match kind with
  | .none => Option.none
  | .delimiters =>
    match Delimiters.check source with
    | .ok () => Option.none
    | .error problem => some problem.message

/-- A document. -/
structure Document where
  /-- The URI by which the editor names it. -/
  uri : String
  /-- Its path, if it has one. -/
  path : Option Path
  /-- Its text, which need not be saved. -/
  source : String
  deriving DecidableEq, Repr

namespace Document

/-- The document of a file. -/
def ofPath (path : Path) (source : String) : Document := ⟨Uri.nameOf path, some path, source⟩

/-- The name of a document in messages. -/
def displayName (d : Document) : String :=
  match d.path with
  | some p => p.display
  | none => d.uri

/-- How the URIs of notebook cells begin. -/
def notebookScheme : String := "vscode-notebook-cell"

/-- Whether a URI names a cell of a notebook. -/
def isNotebookCell (uri : String) : Bool := notebookScheme.toList.isPrefixOf uri.toList

/-- Whether a path lies in one of the directories of the standard library. -/
def isInLibrary (path : Path) (roots : List Path) : Bool := roots.any fun root => path.isWithin root

end Document

end ToolRelay
