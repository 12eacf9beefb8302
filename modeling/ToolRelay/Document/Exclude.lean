import ToolRelay.Glob.Expression
import ToolRelay.Path.Basic
import ToolRelay.Trace

/-!
# Excluded documents

Patterns name the documents that are left alone.  A pattern is matched against the absolute path
of the document and against its path below the root of the workspace.  A text that is no pattern
is ignored with a warning.  If what is left cannot be compiled, no document is excluded.
-/

namespace ToolRelay

/-- The patterns of excluded documents, ready to be matched. -/
structure ExcludeMatcher where
  /-- How each pattern is matched. -/
  plans : List Glob.Plan
  deriving Repr

namespace ExcludeMatcher

/-- No pattern. -/
def empty : ExcludeMatcher := ⟨[]⟩

/-- How a pattern is matched. -/
def plan (pattern : String) : Except Glob.Flaw Glob.Plan := (Glob.parse pattern).map Glob.Plan.of

/-- How the texts that are patterns are matched. -/
def planAll (patterns : List String) : Traced (List Glob.Plan) :=
  match patterns with
  | [] => pure []
  | pattern :: rest => do
    let first ← match plan pattern with
      | .ok p => pure [p]
      | .error e => do
        Traced.warn ("Ignoring invalid exclude pattern '" ++ pattern ++ "': error parsing glob '" ++
          pattern ++ "': " ++ e.message)
        pure []
    let others ← planAll rest
    pure (first ++ others)

/-- What is wrong with the pattern of a plan that is compiled by itself. -/
def soleComplaint? : Glob.Plan → Option String
  | .withExtension _ ts =>
    (Glob.overload? [ts]).map fun o =>
      "error parsing glob '" ++ Glob.expression ts ++ "': " ++ o.message
  | _ => none

/-- The pattern of a plan that is compiled together with others. -/
def joint? : Glob.Plan → Option (List Glob.Token)
  | .tokens ts => some ts
  | _ => none

/-- What is wrong with plans, if they cannot all be compiled. -/
def complaint? (plans : List Glob.Plan) : Option String :=
  match plans.findSome? soleComplaint? with
  | some complaint => some complaint
  | none => (Glob.overload? (plans.filterMap joint?)).map Glob.Overload.message

/-- The matcher for patterns. -/
def ofPatterns (patterns : List String) : Traced ExcludeMatcher := do
  let plans ← planAll patterns
  match complaint? plans with
  | none => pure ⟨plans⟩
  | some complaint => do
    Traced.warn ("Failed to compile exclude patterns: " ++ complaint)
    pure empty

/-- Whether a pattern accepts the octets of a path. -/
def accepts (m : ExcludeMatcher) (path : Bytes) : Bool := m.plans.any (·.accepts path)

/-- Whether a document in a workspace is excluded. -/
def isExcluded (m : ExcludeMatcher) (path root : Path) : Bool :=
  m.accepts path.bytes || (path.below? root).any fun rest => m.accepts rest.bytes

end ExcludeMatcher

end ToolRelay
