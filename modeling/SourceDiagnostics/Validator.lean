import SourceDiagnostics.Config.Basic
import SourceDiagnostics.Diagnostic.Order
import SourceDiagnostics.Finding
import SourceDiagnostics.RequestError
import SourceDiagnostics.Services.Reports

/-!
The validator answers requests by means of a workspace's services. It finds the unit of the
requested file, refreshes the index, and says that the file may have changed. If it is to
validate, it gathers the problems and the markers of the unit, places them in the file, and hands
them out in editor order; after that, if it is to build, it queues a rebuild. The first service
that fails decides the result, except that a rebuild that cannot be queued is only noted.
-/

namespace SourceDiagnostics

structure Validator (ε σ : Type) where
  services : Services ε σ
  config : Config := {}

namespace Validator

variable {ε σ φ : Type}

def reportPath (config : Config) (location : Path) : Path :=
  if config.forwardSlashes then location.forwardSlashes else location

def diagnose (validator : Validator ε σ) (request : Request) (unit : SourceUnit) :
    Action (Event ε) σ RequestError (List Diagnostic) := do
  let { services, config } := validator
  let scope ← services.ask .projects
  let problems ← (services.problems scope unit config.treeStyle).mapError
    fun error => .of request (.index error)
  let markers ← (services.markers unit.resource).mapError
    fun error => .of request (.checker error)
  let resolver ← (services.ask (.load unit.location)).mapError
    fun error => .of request (.offsets error)
  let file := reportPath config unit.location
  let findings := Finding.all problems markers
  (Finding.omitted file resolver config.errorSeverity findings).forM fun omission =>
    Action.note (.omitted omission)
  let diagnostics := Diagnostic.sort (Finding.reported file resolver config.errorSeverity findings)
  Action.note (.summary file (Diagnostic.errorCount diagnostics)
    (Diagnostic.warningCount diagnostics))
  return diagnostics

def scheduleBuild (validator : Validator ε σ) (project : Project) : Action (Event ε) σ φ Unit := do
  match ← (validator.services.ask (.schedule project)).attempt with
  | .ok () => Action.note (.buildScheduled project.name)
  | .error error => Action.note (.buildNotScheduled project.name error)

/-- Answers a request: with the diagnostics of its file, or with nothing if its project is unknown
or it does not ask for diagnostics. -/
def run (validator : Validator ε σ) (request : Request) :
    Action (Event ε) σ RequestError (Option (List Diagnostic)) := do
  let { services, config } := validator
  match ← services.ask (.resolve request.project) with
  | none =>
      Action.note (.unknownProject request.project)
      return none
  | some project =>
      let unit ← (services.ask (.findUnit project request.file)).mapError
        fun error => .of request (.unit error)
      (services.ask (.refresh unit config.refreshMode)).mapError
        fun error => .of request (.index error)
      services.ask (.invalidate unit.location)
      Action.note (.refreshed unit.path config.refreshMode)
      if request.validate then
        let diagnostics ← validator.diagnose request unit
        if request.build then validator.scheduleBuild project
        return some diagnostics
      else
        Action.note (.validationNotRequested unit.path)
        return none

end Validator

end SourceDiagnostics
