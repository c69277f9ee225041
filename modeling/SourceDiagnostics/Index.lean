import SourceDiagnostics.Path
import SourceDiagnostics.Position

/-!
What the semantic index of a workspace is asked for and what it hands back: the problems found
while parsing a unit, in two groups.
-/

namespace SourceDiagnostics

inductive RefreshMode where
  | all
  | checkTimestamps
  | checkContentsHash
  deriving DecidableEq, Repr, Inhabited

def RefreshMode.name : RefreshMode → String
  | .all => "All"
  | .checkTimestamps => "CheckTimestamps"
  | .checkContentsHash => "CheckContentsHash"

/-- How a unit is parsed. By default the settings of its project apply and headers that the index
already knows are not parsed again. -/
structure TreeStyle where
  configureUsingSourceContext : Bool := true
  skipIndexedHeaders : Bool := true
  deriving DecidableEq, Repr

instance : Inhabited TreeStyle := ⟨{}⟩

structure Problem where
  message : String
  start : Offset
  isWarning : Bool
  deriving DecidableEq, Repr, Inhabited

/-- The outcome of parsing a unit: what the preprocessor objected to, then what the names and
types gave rise to. -/
structure SyntaxTree where
  preprocessor : List Problem
  semantic : List Problem
  deriving DecidableEq, Repr, Inhabited

def SyntaxTree.problems (tree : SyntaxTree) : List Problem :=
  tree.preprocessor ++ tree.semantic

inductive IndexError where
  | refresh (path : Path) (reason : String)
  | lock (reason : String)
  | syntaxTree (path : Path) (reason : String)
  deriving DecidableEq, Repr

def IndexError.message : IndexError → String
  | .refresh path reason => "failed to refresh index for '" ++ path.display ++ "': " ++ reason
  | .lock reason => "could not acquire index read lock: " ++ reason
  | .syntaxTree path reason =>
      "failed to build syntax tree for '" ++ path.display ++ "': " ++ reason

end SourceDiagnostics
