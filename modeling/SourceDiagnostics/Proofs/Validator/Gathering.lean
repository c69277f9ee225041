import SourceDiagnostics.Validator

/-!
The two halves of diagnosing a unit. First its problems, its markers and a resolver are gathered
from the services; then the findings are placed in the file, which asks nobody for anything and
always succeeds. `diagnose_eq` puts the halves together again.
-/

namespace SourceDiagnostics

structure Found where
  problems : List Problem
  markers : List Marker
  resolver : Resolver

namespace Found

def diagnostics (found : Found) (config : Config) (file : Path) : List Diagnostic :=
  Diagnostic.sort (Finding.reported file found.resolver config.errorSeverity
    (Finding.all found.problems found.markers))

def omissions (found : Found) (config : Config) (file : Path) : List Omission :=
  Finding.omitted file found.resolver config.errorSeverity
    (Finding.all found.problems found.markers)

def place {ε σ φ : Type} (found : Found) (config : Config) (file : Path) :
    Action (Event ε) σ φ (List Diagnostic) := do
  (found.omissions config file).forM fun omission => Action.note (.omitted omission)
  Action.note (.summary file (Diagnostic.errorCount (found.diagnostics config file))
    (Diagnostic.warningCount (found.diagnostics config file)))
  return found.diagnostics config file

theorem forM_note_apply {ε σ φ β : Type} (told : β → Note) (values : List β) (state : σ) :
    (values.forM fun value => Action.note (told value) : Action (Event ε) σ φ PUnit) state =
      ⟨.returned (), state, (values.map told).map .noted⟩ := by
  induction values with
  | nil => rfl
  | cons head tail induction =>
      have first : (Action.note (told head) : Action (Event ε) σ φ PUnit) state =
          ⟨.returned (), state, [.noted (told head)]⟩ := rfl
      change (Action.note (told head) >>= fun _ =>
        tail.forM fun value => Action.note (told value)) state = _
      rw [Action.bind_apply_of_returned first, induction]
      rfl

def notes (found : Found) (config : Config) (file : Path) : List Note :=
  (found.omissions config file).map .omitted ++
    [.summary file (Diagnostic.errorCount (found.diagnostics config file))
      (Diagnostic.warningCount (found.diagnostics config file))]

theorem place_apply {ε σ φ : Type} (found : Found) (config : Config) (file : Path) (state : σ) :
    (found.place config file : Action (Event ε) σ φ (List Diagnostic)) state =
      ⟨.returned (found.diagnostics config file), state,
        (found.notes config file).map .noted⟩ := by
  rw [place, Action.bind_apply, forM_note_apply, notes, List.map_append]
  rfl

end Found

namespace Validator

variable {ε σ : Type}

def gather (validator : Validator ε σ) (request : Request) (unit : SourceUnit) :
    Action (Event ε) σ RequestError Found := do
  let { services, config } := validator
  let scope ← services.ask .projects
  let problems ← (services.problems scope unit config.treeStyle).mapError
    fun error => .of request (.index error)
  let markers ← (services.markers unit.resource).mapError
    fun error => .of request (.checker error)
  let resolver ← (services.ask (.load unit.location)).mapError
    fun error => .of request (.offsets error)
  return { problems, markers, resolver }

theorem diagnose_eq (validator : Validator ε σ) (request : Request) (unit : SourceUnit) :
    validator.diagnose request unit = validator.gather request unit >>= fun found =>
      found.place validator.config (reportPath validator.config unit.location) := by
  rcases validator with ⟨services, config⟩
  simp only [gather, bind_assoc, pure_bind]
  rfl

end Validator

end SourceDiagnostics
