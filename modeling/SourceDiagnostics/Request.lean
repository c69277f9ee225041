import SourceDiagnostics.Path

/-!
Requests: which file of which project to bring up to date, whether to hand out its diagnostics,
and whether to queue a rebuild after that.
-/

namespace SourceDiagnostics

/-- What is asked of a validator. By default a file is only brought up to date. -/
structure Request where
  project : String
  file : Path
  validate : Bool := false
  build : Bool := false
  deriving DecidableEq, Repr, Inhabited

namespace Request

def withValidate (request : Request) (validate : Bool) : Request :=
  { request with validate }

def withBuild (request : Request) (build : Bool) : Request :=
  { request with build }

end Request

end SourceDiagnostics
