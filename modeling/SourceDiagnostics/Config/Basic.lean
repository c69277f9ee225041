import SourceDiagnostics.Index

/-!
The settings of a validator.
-/

namespace SourceDiagnostics

structure Config where
  /-- The severity of a marker that reports an error; markers of any other are warnings. -/
  errorSeverity : Int32 := 2
  treeStyle : TreeStyle := {}
  refreshMode : RefreshMode := .all
  forwardSlashes : Bool := true
  deriving DecidableEq, Repr

instance : Inhabited Config := ⟨{}⟩

namespace Config

inductive Setting where
  | errorSeverity (value : Int32)
  | treeStyle (value : TreeStyle)
  | refreshMode (value : RefreshMode)
  | forwardSlashes (value : Bool)
  deriving DecidableEq, Repr

def set (config : Config) : Setting → Config
  | .errorSeverity value => { config with errorSeverity := value }
  | .treeStyle value => { config with treeStyle := value }
  | .refreshMode value => { config with refreshMode := value }
  | .forwardSlashes value => { config with forwardSlashes := value }

end Config

end SourceDiagnostics
