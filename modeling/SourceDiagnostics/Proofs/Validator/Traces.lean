import SourceDiagnostics.Proofs.Services.Lock
import SourceDiagnostics.Proofs.Validator.Gathering

/-!
What a request inherits from its calls. A relation between states and logs that a sequence has if
its parts have it holds of a whole request if it holds of notes, of calls that do not concern the
lock, and of parsing. What follows the refresh of a unit makes none of the calls that lead up to it.
Warnings come from rebuilds only, so where a relation does not hold of all notes, it is enough that
it holds of those that are no warnings, and of rebuilds (`run_traces_of_rebuilt`).
-/

namespace SourceDiagnostics

def Call.isPreparatory : Call → Bool
  | .resolve _ | .findUnit _ _ | .refresh _ _ | .invalidate _ => true
  | _ => false

/-- A relation that notes have, unless they are warnings. -/
def Quiet {ε σ : Type} (relation : σ → List (Event ε) → σ → Prop) : Prop :=
  ∀ note : Note, note.level ≠ .warn → ∀ state, relation state [.noted note] state

theorem Quiet.traces {ε σ φ : Type} {relation : σ → List (Event ε) → σ → Prop} {note : Note}
    (quiet : Quiet relation) (calm : note.level ≠ .warn) :
    (Action.note note : Action (Event ε) σ φ Unit).Traces relation :=
  quiet note calm

theorem Services.problems_traces_of_collected {ε σ : Type} {services : Services ε σ}
    {relation : σ → List (Event ε) → σ → Prop} (sequential : Sequential relation)
    (collected : ∀ count path state, relation state [.noted (.problemsCollected count path)] state)
    (asked : ∀ call, call.isPreparatory = false → (services.ask call).Traces relation)
    (scope : List Project) (unit : SourceUnit) (style : TreeStyle) :
    (services.problems scope unit style).Traces relation := by
  apply Action.Traces.bind sequential (asked (.acquire scope) rfl)
  intro _
  apply Action.Traces.andFinally sequential _ (asked .release rfl)
  apply Action.Traces.bind sequential (asked (.buildTree unit style) rfl)
  intro tree
  apply Action.Traces.bind sequential (Action.Traces.emit (collected _ _))
  exact fun _ => Action.Traces.pure sequential tree.problems

theorem Services.markers_traces_of_collected {ε σ : Type} {services : Services ε σ}
    {relation : σ → List (Event ε) → σ → Prop} (sequential : Sequential relation)
    (collected : ∀ count path state, relation state [.noted (.markersCollected count path)] state)
    (asked : ∀ call, call.concernsLock = false → call.isPreparatory = false →
      (services.ask call).Traces relation)
    (resource : Resource) : (services.markers resource).Traces relation := by
  apply Action.Traces.bind sequential (asked (.check resource .onDemand) rfl rfl)
  intro _
  apply Action.Traces.bind sequential (asked (.findMarkers resource .zero) rfl rfl)
  intro markers
  apply Action.Traces.bind sequential (Action.Traces.emit (collected _ _))
  exact fun _ => Action.Traces.pure sequential markers

theorem Services.problems_traces_of_quiet {ε σ : Type} {services : Services ε σ}
    {relation : σ → List (Event ε) → σ → Prop} (sequential : Sequential relation)
    (quiet : Quiet relation)
    (asked : ∀ call, call.isPreparatory = false → (services.ask call).Traces relation)
    (scope : List Project) (unit : SourceUnit) (style : TreeStyle) :
    (services.problems scope unit style).Traces relation :=
  problems_traces_of_collected sequential (fun _ _ => quiet _ (by nofun)) asked scope unit style

theorem Services.problems_traces {ε σ : Type} {services : Services ε σ}
    {relation : σ → List (Event ε) → σ → Prop} (sequential : Sequential relation)
    (noted : ∀ note state, relation state [.noted note] state)
    (asked : ∀ call, call.isPreparatory = false → (services.ask call).Traces relation)
    (scope : List Project) (unit : SourceUnit) (style : TreeStyle) :
    (services.problems scope unit style).Traces relation :=
  problems_traces_of_quiet sequential (fun note _ => noted note) asked scope unit style

namespace Validator

variable {ε σ φ : Type}

section Traces

variable {validator : Validator ε σ} {relation : σ → List (Event ε) → σ → Prop}
  (sequential : Sequential relation)

include sequential

theorem scheduleBuild_traces (noted : ∀ note state, relation state [.noted note] state)
    (asked : ∀ project, (validator.services.ask (.schedule project)).Traces relation)
    (project : Project) :
    (validator.scheduleBuild project : Action (Event ε) σ φ Unit).Traces relation := by
  have scheduled := Action.Traces.attempt (ψ := φ) (asked project)
  apply Action.Traces.bind sequential scheduled
  intro result
  cases result <;> exact Action.Traces.emit (noted _)

theorem gather_traces
    (asked : ∀ call, call.concernsLock = false → call.isPreparatory = false →
      (validator.services.ask call).Traces relation)
    (parsed : ∀ scope unit style,
      (validator.services.problems scope unit style).Traces relation)
    (checked : ∀ resource, (validator.services.markers resource).Traces relation)
    (request : Request) (unit : SourceUnit) :
    (validator.gather request unit).Traces relation := by
  rcases validator with ⟨services, config⟩
  apply Action.Traces.bind sequential (Action.Traces.mapError (asked .projects rfl rfl))
  intro scope
  apply Action.Traces.bind sequential (Action.Traces.mapError (parsed scope unit config.treeStyle))
  intro problems
  apply Action.Traces.bind sequential (Action.Traces.mapError (checked unit.resource))
  intro markers
  apply Action.Traces.bind sequential (Action.Traces.mapError (asked (.load unit.location) rfl rfl))
  exact fun _ => Action.Traces.pure sequential _

variable (quiet : Quiet relation)
  (asked : ∀ call, call.concernsLock = false → call.isPreparatory = false →
    (validator.services.ask call).Traces relation)
  (parsed : ∀ scope unit style, (validator.services.problems scope unit style).Traces relation)

include quiet asked parsed

theorem diagnose_traces (request : Request) (unit : SourceUnit) :
    (validator.diagnose request unit).Traces relation := by
  rw [diagnose_eq]
  apply Action.Traces.bind sequential
    (gather_traces sequential asked parsed
      (Services.markers_traces_of_collected sequential (fun _ _ => quiet _ (by nofun)) asked)
      request unit)
  intro found
  apply Action.Traces.bind sequential
    (Action.Traces.forM sequential (fun _ => quiet.traces (by nofun)) _)
  intro _
  apply Action.Traces.bind sequential (quiet.traces (by nofun))
  exact fun _ => Action.Traces.pure sequential _

variable (rebuilt : ∀ project, (validator.scheduleBuild project :
  Action (Event ε) σ RequestError Unit).Traces relation)

include rebuilt

theorem after_refresh_traces_of_rebuilt (request : Request) (project : Project)
    (unit : SourceUnit) :
    (do
      Action.note (.refreshed unit.path validator.config.refreshMode)
      if request.validate then
        let diagnostics ← validator.diagnose request unit
        if request.build then validator.scheduleBuild project
        return some diagnostics
      else
        Action.note (.validationNotRequested unit.path)
        return none :
      Action (Event ε) σ RequestError (Option (List Diagnostic))).Traces relation := by
  apply Action.Traces.bind sequential (quiet.traces (by nofun))
  intro _
  cases request.validate with
  | false =>
      apply Action.Traces.bind sequential (quiet.traces (by nofun))
      exact fun _ => Action.Traces.pure sequential _
  | true =>
      apply Action.Traces.bind sequential
        (diagnose_traces sequential quiet asked parsed request unit)
      intro diagnostics
      cases request.build with
      | false => exact Action.Traces.pure sequential _
      | true =>
          apply Action.Traces.bind sequential (rebuilt project)
          exact fun _ => Action.Traces.pure sequential _

end Traces

theorem after_refresh_traces {validator : Validator ε σ}
    {relation : σ → List (Event ε) → σ → Prop} (sequential : Sequential relation)
    (noted : ∀ note state, relation state [.noted note] state)
    (asked : ∀ call, call.concernsLock = false → call.isPreparatory = false →
      (validator.services.ask call).Traces relation)
    (parsed : ∀ scope unit style, (validator.services.problems scope unit style).Traces relation)
    (request : Request) (project : Project) (unit : SourceUnit) :
    (do
      Action.note (.refreshed unit.path validator.config.refreshMode)
      if request.validate then
        let diagnostics ← validator.diagnose request unit
        if request.build then validator.scheduleBuild project
        return some diagnostics
      else
        Action.note (.validationNotRequested unit.path)
        return none :
      Action (Event ε) σ RequestError (Option (List Diagnostic))).Traces relation :=
  after_refresh_traces_of_rebuilt sequential (fun note _ => noted note) asked parsed
    (scheduleBuild_traces sequential noted fun project => asked (.schedule project) rfl rfl)
    request project unit

/-- What a sequence inherits from its parts holds of a request, if it holds of notes that are no
warnings, of calls that do not concern the lock, of parsing, and of rebuilds. -/
theorem run_traces_of_rebuilt {validator : Validator ε σ}
    {relation : σ → List (Event ε) → σ → Prop} (sequential : Sequential relation)
    (quiet : Quiet relation)
    (asked : ∀ call, call.concernsLock = false → (validator.services.ask call).Traces relation)
    (parsed : ∀ scope unit style, (validator.services.problems scope unit style).Traces relation)
    (rebuilt : ∀ project, (validator.scheduleBuild project :
      Action (Event ε) σ RequestError Unit).Traces relation)
    (request : Request) : (validator.run request).Traces relation := by
  have later (call : Call) (free : call.concernsLock = false) (_ : call.isPreparatory = false) :
      (validator.services.ask call).Traces relation := asked call free
  have settled := after_refresh_traces_of_rebuilt sequential quiet later parsed rebuilt request
  rcases validator with ⟨services, config⟩
  apply Action.Traces.bind sequential
    (Action.Traces.mapError (asked (.resolve request.project) rfl))
  intro project?
  cases project? with
  | none =>
      apply Action.Traces.bind sequential (quiet.traces (by nofun))
      exact fun _ => Action.Traces.pure sequential _
  | some project =>
      apply Action.Traces.bind sequential
        (Action.Traces.mapError (asked (.findUnit project request.file) rfl))
      intro unit
      apply Action.Traces.bind sequential
        (Action.Traces.mapError (asked (.refresh unit config.refreshMode) rfl))
      intro _
      apply Action.Traces.bind sequential
        (Action.Traces.mapError (asked (.invalidate unit.location) rfl))
      exact fun _ => settled project unit

theorem run_traces {validator : Validator ε σ} {relation : σ → List (Event ε) → σ → Prop}
    (sequential : Sequential relation) (noted : ∀ note state, relation state [.noted note] state)
    (asked : ∀ call, call.concernsLock = false → (validator.services.ask call).Traces relation)
    (parsed : ∀ scope unit style, (validator.services.problems scope unit style).Traces relation)
    (request : Request) : (validator.run request).Traces relation :=
  run_traces_of_rebuilt sequential (fun note _ => noted note) asked parsed
    (scheduleBuild_traces sequential noted fun project => asked (.schedule project) rfl) request

end Validator

/-! So what is logged is a true account of the calls. -/

theorem Services.problems_recorded {ε σ : Type} (services : Services ε σ) (scope : List Project)
    (unit : SourceUnit) (style : TreeStyle) :
    (services.problems scope unit style).Traces services.Recorded :=
  problems_traces services.recorded_sequential (fun _ state => ⟨.nil state, rfl⟩)
    (fun call _ => services.ask_recorded call) scope unit style

namespace Validator

variable {ε σ : Type}

theorem diagnose_recorded (validator : Validator ε σ) (request : Request) (unit : SourceUnit) :
    (validator.diagnose request unit).Traces validator.services.Recorded :=
  diagnose_traces validator.services.recorded_sequential (fun _ _ state => ⟨.nil state, rfl⟩)
    (fun call _ _ => validator.services.ask_recorded call)
    validator.services.problems_recorded request unit

theorem run_recorded (validator : Validator ε σ) (request : Request) :
    (validator.run request).Traces validator.services.Recorded :=
  run_traces validator.services.recorded_sequential (fun _ state => ⟨.nil state, rfl⟩)
    (fun call _ => validator.services.ask_recorded call)
    validator.services.problems_recorded request

end Validator

end SourceDiagnostics
