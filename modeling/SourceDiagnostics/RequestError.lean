import SourceDiagnostics.FileError
import SourceDiagnostics.Index
import SourceDiagnostics.Marker
import SourceDiagnostics.Project
import SourceDiagnostics.Request

/-!
Why a request fails: the error of the service that failed, together with the project and the file
that the request named.
-/

namespace SourceDiagnostics

inductive RequestError.Cause where
  | unit (source : LookupError)
  | index (source : IndexError)
  | checker (source : CheckerError)
  | offsets (source : FileError)
  deriving DecidableEq, Repr

namespace RequestError.Cause

def message : RequestError.Cause → String
  | unit source => source.message
  | index source => source.message
  | checker source => source.message
  | offsets source => source.message

def task : RequestError.Cause → String
  | unit _ => "cannot locate"
  | index _ => "index access failed for"
  | checker _ => "static check failed for"
  | offsets _ => "cannot read line offsets of"

end RequestError.Cause

structure RequestError where
  project : String
  file : Path
  cause : RequestError.Cause
  deriving DecidableEq, Repr

namespace RequestError

/-- The error of a request, in the request's own words for what it was about. -/
def of (request : Request) (cause : Cause) : RequestError :=
  { project := request.project, file := request.file, cause }

def message (error : RequestError) : String :=
  error.project ++ ": " ++ error.cause.task ++ " '" ++ error.file.display ++ "': " ++
    error.cause.message

end RequestError

end SourceDiagnostics
