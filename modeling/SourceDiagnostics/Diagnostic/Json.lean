import SourceDiagnostics.Diagnostic.Basic
import SourceDiagnostics.Json

/-!
Diagnostics as JSON, the form that editors read: an array of objects, one per diagnostic and in
the same order. A file whose path is no text cannot be written.
-/

namespace SourceDiagnostics.Diagnostic

inductive JsonError where
  | pathNotText (path : Path)
  deriving DecidableEq, Repr

def JsonError.message : JsonError → String
  | .pathNotText _ => "path contains invalid UTF-8 characters"

def toJson (diagnostic : Diagnostic) : Except JsonError Json :=
  match diagnostic.file.toString? with
  | none => .error (.pathNotText diagnostic.file)
  | some filename => .ok <| .object [
      ("message", .string diagnostic.message),
      ("filename", .string filename),
      ("line", .natural diagnostic.line.toNat),
      ("column", .natural diagnostic.column.toNat),
      ("warning", .boolean diagnostic.isWarning)]

def renderJson (diagnostics : List Diagnostic) : Except JsonError String :=
  (diagnostics.mapM toJson).map fun objects => (Json.array objects).render

end SourceDiagnostics.Diagnostic
