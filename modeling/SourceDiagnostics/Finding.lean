import SourceDiagnostics.Diagnostic.Basic
import SourceDiagnostics.Index
import SourceDiagnostics.Marker

/-!
Findings: what the parser and the checker report about one file, before it is placed in the file.
Every problem becomes a diagnostic. A marker becomes one unless it is a task or has no usable
position; then it is omitted, for a reason. So each finding is either reported or omitted, and
`reported` and `omitted` split a list of findings in two.
-/

namespace SourceDiagnostics

inductive Finding where
  | problem (found : Problem)
  | marker (found : Marker)
  deriving DecidableEq, Repr

inductive Omission where
  | task (message : Option String)
  | unplaced (message : Option String)
  deriving DecidableEq, Repr

/-- The value of an attribute that counts only when it is positive. -/
def Marker.positive? (value : Option Int32) : Option UInt32 :=
  value.bind fun number => if 0 < number then some number.toUInt32 else none

/-- Where a marker is: at its offset if it has a positive one, else at the start of its line if it
has a positive one. -/
def Marker.position? (marker : Marker) (resolver : Resolver) : Option Position :=
  match positive? marker.charStart with
  | some offset => some (resolver offset)
  | none => (positive? marker.lineNumber).map Position.lineStart

/-- Whether a marker reports an error: its severity is present and exactly that of errors. -/
def Marker.isError (marker : Marker) (errorSeverity : Int32) : Bool :=
  marker.severity == some errorSeverity

namespace Finding

def report (file : Path) (resolver : Resolver) (errorSeverity : Int32) :
    Finding → Except Omission Diagnostic
  | problem found =>
      .ok (.place found.message file (resolver found.start) found.isWarning)
  | marker found =>
      if found.isTask then .error (.task found.message)
      else
        match found.position? resolver with
        | none => .error (.unplaced found.message)
        | some position =>
            .ok (.place (found.message.getD "") file position (!found.isError errorSeverity))

def all (problems : List Problem) (markers : List Marker) : List Finding :=
  problems.map problem ++ markers.map marker

def reported (file : Path) (resolver : Resolver) (errorSeverity : Int32)
    (findings : List Finding) : List Diagnostic :=
  findings.filterMap fun finding => (finding.report file resolver errorSeverity).toOption

def omitted (file : Path) (resolver : Resolver) (errorSeverity : Int32)
    (findings : List Finding) : List Omission :=
  findings.filterMap fun finding =>
    match finding.report file resolver errorSeverity with
    | .error omission => some omission
    | .ok _ => none

end Finding

end SourceDiagnostics
