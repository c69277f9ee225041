/-!
Why a file cannot be read: a kind that programs go by, and a text for people.
-/

namespace SourceDiagnostics

inductive FileError.Kind where
  | notFound
  | permissionDenied
  | isADirectory
  | notADirectory
  | invalidInput
  | invalidFilename
  | invalidData
  | other
  deriving DecidableEq, Repr, Inhabited

structure FileError where
  kind : FileError.Kind
  message : String
  deriving DecidableEq, Repr, Inhabited

def FileError.Kind.name : FileError.Kind → String
  | notFound => "NotFound"
  | permissionDenied => "PermissionDenied"
  | isADirectory => "IsADirectory"
  | notADirectory => "NotADirectory"
  | invalidInput => "InvalidInput"
  | invalidFilename => "InvalidFilename"
  | invalidData => "InvalidData"
  | other => "Other"

def FileError.Kind.ofName? : String → Option FileError.Kind
  | "NotFound" => some notFound
  | "PermissionDenied" => some permissionDenied
  | "IsADirectory" => some isADirectory
  | "NotADirectory" => some notADirectory
  | "InvalidInput" => some invalidInput
  | "InvalidFilename" => some invalidFilename
  | "InvalidData" => some invalidData
  | "Other" => some other
  | _ => none

theorem FileError.Kind.ofName?_name (kind : FileError.Kind) : ofName? kind.name = some kind := by
  cases kind <;> rfl

end SourceDiagnostics
