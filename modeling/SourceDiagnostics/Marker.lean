import SourceDiagnostics.Path

/-!
Markers, as the static checker leaves them in the workspace. Every attribute of a marker may be
absent, and a present one may hold any value.
-/

namespace SourceDiagnostics

/-- What a marker is about. Only the exact kind `task` marks work to be done. -/
inductive MarkerKind where
  | problem
  | task
  | other (name : String)
  deriving DecidableEq, Repr, Inhabited

structure Marker where
  kind : MarkerKind
  message : Option String := none
  charStart : Option Int32 := none
  lineNumber : Option Int32 := none
  severity : Option Int32 := none
  deriving DecidableEq, Repr, Inhabited

namespace Marker

inductive Attribute where
  | message (text : String)
  | charStart (offset : Int32)
  | lineNumber (line : Int32)
  | severity (value : Int32)
  deriving DecidableEq, Repr

def set (marker : Marker) : Attribute → Marker
  | .message text => { marker with message := some text }
  | .charStart offset => { marker with charStart := some offset }
  | .lineNumber line => { marker with lineNumber := some line }
  | .severity value => { marker with severity := some value }

def ofAttributes (kind : MarkerKind) (attributes : List Attribute) : Marker :=
  attributes.foldl set { kind }

def isTask (marker : Marker) : Bool :=
  marker.kind == .task

end Marker

inductive CheckerError where
  | run (path : Path) (reason : String)
  | markers (path : Path) (reason : String)
  deriving DecidableEq, Repr

def CheckerError.message : CheckerError → String
  | .run path reason => "checker run failed on '" ++ path.display ++ "': " ++ reason
  | .markers path reason => "failed to read markers of '" ++ path.display ++ "': " ++ reason

inductive LaunchMode where
  | onDemand
  deriving DecidableEq, Repr

def LaunchMode.name : LaunchMode → String
  | .onDemand => "OnDemand"

inductive MarkerDepth where
  | zero
  deriving DecidableEq, Repr

def MarkerDepth.name : MarkerDepth → String
  | .zero => "Zero"

end SourceDiagnostics
