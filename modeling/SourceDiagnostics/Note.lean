import SourceDiagnostics.Finding
import SourceDiagnostics.Project
import SourceDiagnostics.Text.Quoted

/-!
Notes: what the library tells its log. A note is a fact; its level and its wording follow from it.
-/

namespace SourceDiagnostics

inductive Note.Level where
  | trace
  | debug
  | warn
  deriving DecidableEq, Repr

inductive Note where
  | unknownProject (name : String)
  | refreshed (path : Path) (mode : RefreshMode)
  | validationNotRequested (path : Path)
  | problemsCollected (count : Nat) (path : Path)
  | markersCollected (count : Nat) (path : Path)
  | omitted (omission : Omission)
  | summary (file : Path) (errors warnings : Nat)
  | buildScheduled (project : String)
  | buildNotScheduled (project : String) (error : BuildError)
  | buildQueued (project : String)
  | queuedBuildFailed (error : BuildError)
  | tableRemembered (path : Path)
  | tableOutdated (path : Path)
  deriving DecidableEq, Repr

namespace Note

/-- Failures of builds are warnings; what every request goes through is noted for debugging. -/
def level : Note → Level
  | unknownProject _ | refreshed _ _ | validationNotRequested _ => .debug
  | problemsCollected _ _ | markersCollected _ _ | summary _ _ _ => .debug
  | buildScheduled _ | buildQueued _ => .debug
  | buildNotScheduled _ _ | queuedBuildFailed _ => .warn
  | omitted _ | tableRemembered _ | tableOutdated _ => .trace

def message : Note → String
  | unknownProject name => "no project named '" ++ name ++ "', nothing to update"
  | refreshed path mode => "refreshed index for " ++ path.display ++ " (" ++ mode.name ++ ")"
  | validationNotRequested path => "validation not requested for " ++ path.display
  | problemsCollected count path =>
      "collected " ++ toString count ++ " problem(s) for " ++ path.display
  | markersCollected count path =>
      "collected " ++ toString count ++ " marker(s) for " ++ path.display
  | omitted (.task message) => "skipping task marker: " ++ Text.Quoted.quoteOption message
  | omitted (.unplaced message) =>
      "skipping marker without position: " ++ Text.Quoted.quoteOption message
  | summary file errors warnings =>
      file.display ++ ": " ++ toString errors ++ " error(s), " ++ toString warnings ++ " warning(s)"
  | buildScheduled project => "scheduled incremental build of '" ++ project ++ "'"
  | buildNotScheduled project error =>
      "could not schedule incremental build of '" ++ project ++ "': " ++ error.message
  | buildQueued project => "queueing incremental build of '" ++ project ++ "'"
  | queuedBuildFailed error => "background build failed: " ++ error.message
  | tableRemembered path => "offsets cache hit: " ++ path.display
  | tableOutdated path =>
      "offsets of " ++ path.display ++ " invalidated while loading, not cached"

end Note

end SourceDiagnostics
