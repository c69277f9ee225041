import SourceDiagnostics.Proofs.Finding.Accounting
import SourceDiagnostics.Proofs.Validator.Completion
import SourceDiagnostics.Proofs.Validator.Traces

/-!
What a log tells of omissions. Nothing is omitted while findings are gathered (`gather_untold`),
and when they are placed the log tells of each omission once. So from the log and the result of a
request together, each problem and each marker that was reported is accounted for.
-/

namespace SourceDiagnostics

namespace Event

variable {ε : Type}

def omission? : Event ε → Option Omission
  | noted (.omitted omission) => some omission
  | _ => none

def omissions (log : List (Event ε)) : List Omission :=
  log.filterMap omission?

theorem omissions_append (log later : List (Event ε)) :
    omissions (log ++ later) = omissions log ++ omissions later :=
  List.filterMap_append

theorem omissions_exchange (call : Call) (log : List ε)
    (outcome : Outcome call.Failure call.Reply) : omissions (exchange call log outcome) = [] := by
  have silent : (log.map service).filterMap omission? = [] := by
    simp [List.filterMap_map, List.filterMap_eq_nil_iff, omission?]
  rw [exchange, List.cons_append, omissions, List.filterMap_cons_none rfl, List.filterMap_append,
    silent]
  rfl

end Event

def Untold {ε σ : Type} (_ : σ) (log : List (Event ε)) (_ : σ) : Prop :=
  Event.omissions log = []

theorem untold_sequential {ε σ : Type} : Sequential (Untold : σ → List (Event ε) → σ → Prop) where
  refl _ := rfl
  trans first later := by
    rw [Untold, Event.omissions_append, first, later]
    rfl

theorem ask_untold {ε σ : Type} (services : Services ε σ) (call : Call) :
    (services.ask call).Traces Untold := fun state =>
  Event.omissions_exchange call (services call state).log (services call state).outcome

theorem Found.omissions_notes {ε : Type} (found : Found) (config : Config) (file : Path) :
    Event.omissions ((found.notes config file).map .noted : List (Event ε)) =
      found.omissions config file := by
  rw [Found.notes, List.map_append, Event.omissions_append, List.map_map, Event.omissions,
    List.filterMap_map]
  exact (List.append_nil _).trans List.filterMap_some

namespace Validator

variable {ε σ : Type}

theorem gather_untold (validator : Validator ε σ) (request : Request) (unit : SourceUnit) :
    (validator.gather request unit).Traces Untold := by
  have asked (call : Call) : (validator.services.ask call).Traces Untold :=
    ask_untold validator.services call
  apply gather_traces untold_sequential (fun call _ _ => asked call)
  · exact Services.problems_traces_of_collected untold_sequential (fun _ _ _ => rfl)
      fun call _ => asked call
  · exact Services.markers_traces_of_collected untold_sequential (fun _ _ _ => rfl)
      fun call _ _ => asked call

/-- What diagnosing a unit tells of omissions, and what it comes to: all that was found is placed,
or nothing is handed out and nothing told. -/
inductive Told (config : Config) (unit : SourceUnit) :
    List (Event ε) → Outcome RequestError (List Diagnostic) → Prop
  | placed (reports : Reports) {log : List (Event ε)}
      (stages : Event.answers log = reports.stages config unit)
      (omissions : Event.omissions log =
        reports.found.omissions config (reportPath config unit.location)) :
      Told config unit log
        (.returned (reports.found.diagnostics config (reportPath config unit.location)))
  | failed {log : List (Event ε)} (error : RequestError) (untold : Event.omissions log = []) :
      Told config unit log (.failed error)
  | panicked {log : List (Event ε)} (message : String) (untold : Event.omissions log = []) :
      Told config unit log (.panicked message)

theorem diagnose_told (validator : Validator ε σ) (request : Request) (unit : SourceUnit) :
    (validator.diagnose request unit).Ends (Told validator.config unit) := by
  rw [diagnose_eq]
  have gathered : (validator.gather request unit).Ends fun log outcome =>
      Staged (Reports.stages validator.config unit) Reports.found (Blames request)
        (Event.answers log) outcome ∧ Event.omissions log = [] := fun state =>
    ⟨validator.gather_settles request unit state, validator.gather_untold request unit state⟩
  refine Action.Ends.bind gathered ?_ ?_ ?_
  · intro log found given state
    rcases given with ⟨course, untold⟩
    generalize answered : Event.answers log = answers at course
    cases course with
    | completed reports =>
        rw [Found.place_apply]
        refine .placed reports ?_ ?_
        · rw [Event.answers_append, Event.answers_noted, List.append_nil, answered]
        · rw [Event.omissions_append, untold, Found.omissions_notes]
          rfl
  · exact fun log error ended => .failed error ended.right
  · exact fun log message ended => .panicked message ended.right

/-- Each finding is accounted for. Whatever the problems, the markers, the resolver and the
settings: the diagnostics are those of the problems and of the markers that are to be reported, one
for each in their order; the other markers are omitted, each with one note for tracing, in their
order, that has their message and says whether they are tasks or have no position; so there are as
many problems and markers as diagnostics and such notes. The errors among the diagnostics are the
problems that are errors and the reported markers of the given severity, the rest are warnings, and
there are errors if there is at least one. Sorting changes nothing about this. What a request hands
out and logs is just that, for what the services reported; unless the services do not make all the
reports, when it hands out nothing and has told of no omission. -/
theorem findings_accounted_for (validator : Validator ε σ) (request : Request)
    (unit : SourceUnit) (state : σ) :
    (∀ (file : Path) (resolver : Resolver) (errorSeverity : Int32) (problems : List Problem)
        (markers : List Marker),
      let findings := Finding.all problems markers
      let reported := Finding.reported file resolver errorSeverity findings
      let omitted := Finding.omitted file resolver errorSeverity findings
      List.Forall₂ (Finding.Shows file resolver errorSeverity)
          (findings.filter (Finding.Reportable ·)) reported ∧
        Finding.Accounted errorSeverity problems markers reported omitted ∧
        Finding.Accounted errorSeverity problems markers (Diagnostic.sort reported) omitted) ∧
      let ran := validator.diagnose request unit state
      let file := reportPath validator.config unit.location
      (∃ reports : Reports,
        let findings := Finding.all reports.tree.problems reports.markers
        validator.services.Trail state (reports.stages validator.config unit) ran.state ∧
          Event.answers ran.log = reports.stages validator.config unit ∧
          ran.outcome = .returned (Diagnostic.sort
            (Finding.reported file reports.resolver validator.config.errorSeverity findings)) ∧
          Event.omissions ran.log =
            Finding.omitted file reports.resolver validator.config.errorSeverity findings) ∨
        (∀ (reports : Reports) (final : σ),
          ¬ validator.services.Trail state (reports.stages validator.config unit) final) ∧
        (∀ diagnostics, ran.outcome ≠ .returned diagnostics) ∧ Event.omissions ran.log = [] := by
  constructor
  · intro file resolver errorSeverity problems markers findings reported omitted
    have accounted := Finding.accounted file resolver errorSeverity problems markers
    exact ⟨Finding.forall₂_reported file resolver errorSeverity findings, accounted,
      accounted.perm (List.mergeSort_perm ..)⟩
  · intro ran file
    have told : Told validator.config unit ran.log ran.outcome :=
      validator.diagnose_told request unit state
    have recorded : validator.services.Recorded state ran.log ran.state :=
      validator.diagnose_recorded request unit state
    have unanswered (empty : ∀ diagnostics, ran.outcome ≠ .returned diagnostics)
        (reports : Reports) (final : σ) :
        ¬ validator.services.Trail state (reports.stages validator.config unit) final :=
      fun trail => empty _ (validator.diagnose_follows request unit reports state final trail).left
    generalize ran.outcome = outcome at told unanswered
    cases told with
    | placed reports stages omissions =>
        exact .inl ⟨reports, stages ▸ recorded.trail, stages, rfl, omissions⟩
    | failed error untold => exact .inr ⟨unanswered nofun, nofun, untold⟩
    | panicked message untold => exact .inr ⟨unanswered nofun, nofun, untold⟩

end Validator

end SourceDiagnostics
