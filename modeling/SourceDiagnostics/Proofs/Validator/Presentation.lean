import SourceDiagnostics.Proofs.Finding.Presentation
import SourceDiagnostics.Proofs.Validator.Course

/-!
Two configurations that differ in how diagnostics are presented: in the severity that makes a
marker an error, and in the slashes of the file that is shown. Requests go the same way with both
of them, up to the note that sums up the diagnostics (`run_echoes`), so they come to the same
answers, and from the same answers to diagnostics of the same findings in the same order.
-/

namespace SourceDiagnostics

namespace Event

variable {ε : Type}

def isSummary : Event ε → Bool
  | noted (.summary _ _ _) => true
  | _ => false

def unsummed (log : List (Event ε)) : List (Event ε) :=
  log.filter fun event => !event.isSummary

theorem unsummed_append (log later : List (Event ε)) :
    unsummed (log ++ later) = unsummed log ++ unsummed later :=
  List.filter_append ..

theorem filterMap_unsummed {α : Type} {view : Event ε → Option α}
    (silent : ∀ event, event.isSummary = true → view event = none) (log : List (Event ε)) :
    (unsummed log).filterMap view = log.filterMap view := by
  rw [unsummed, List.filterMap_filter]
  congr 1
  funext event
  cases summary : event.isSummary with
  | false => rfl
  | true => exact (silent event summary).symm

theorem calls_unsummed (log : List (Event ε)) : calls (unsummed log) = calls log := by
  apply filterMap_unsummed
  intro event summary
  cases event <;> first | rfl | cases summary

theorem answers_unsummed (log : List (Event ε)) : answers (unsummed log) = answers log := by
  apply filterMap_unsummed
  intro event summary
  cases event <;> first | rfl | cases summary

end Event

/-! Actions that do the same, apart from summaries and from returned values that are related. -/

inductive Outcome.Related {φ α β : Type} (related : α → β → Prop) :
    Outcome φ α → Outcome φ β → Prop
  | returned {left : α} {right : β} (values : related left right) :
      Related related (.returned left) (.returned right)
  | failed (error : φ) : Related related (.failed error) (.failed error)
  | panicked (message : String) : Related related (.panicked message) (.panicked message)

namespace Action

variable {ε σ φ ψ α α' β β' : Type}

structure Echo (related : α → β → Prop) (left : Ran (Event ε) σ φ α) (right : Ran (Event ε) σ φ β) :
    Prop where
  outcome : left.outcome.Related related right.outcome
  state : left.state = right.state
  log : Event.unsummed left.log = Event.unsummed right.log

def Echoes (related : α → β → Prop) (left : Action (Event ε) σ φ α)
    (right : Action (Event ε) σ φ β) : Prop :=
  ∀ state, Echo related (left state) (right state)

namespace Echoes

variable {related : α → α' → Prop} {later : β → β' → Prop}

theorem refl (action : Action (Event ε) σ φ α) : Echoes Eq action action := by
  intro state
  refine ⟨?_, rfl, rfl⟩
  cases (action state).outcome with
  | returned value => exact .returned rfl
  | failed error => exact .failed error
  | panicked message => exact .panicked message

theorem pure {left : α} {right : α'} (values : related left right) :
    Echoes related (Pure.pure left : Action (Event ε) σ φ α)
      (Pure.pure right : Action (Event ε) σ φ α') :=
  fun _ => ⟨.returned values, rfl, rfl⟩

theorem summary (file file' : Path) (errors errors' warnings warnings' : Nat) :
    Echoes Eq (Action.note (.summary file errors warnings) : Action (Event ε) σ φ Unit)
      (Action.note (.summary file' errors' warnings')) :=
  fun _ => ⟨.returned rfl, rfl, rfl⟩

theorem bind {left : Action (Event ε) σ φ α} {right : Action (Event ε) σ φ α'}
    {next : α → Action (Event ε) σ φ β} {next' : α' → Action (Event ε) σ φ β'}
    (first : Echoes related left right)
    (rest : ∀ value value', related value value' → Echoes later (next value) (next' value')) :
    Echoes later (left >>= next) (right >>= next') := by
  intro state
  have start := first state
  rw [bind_apply, bind_apply]
  generalize left state = ran, right state = ran' at start ⊢
  rcases ran with ⟨outcome, between, log⟩
  rcases ran' with ⟨outcome', between', log'⟩
  rcases start with ⟨ends, states, logs⟩
  obtain rfl : between = between' := states
  cases ends with
  | returned values =>
      have last := rest _ _ values between
      refine ⟨last.outcome, last.state, ?_⟩
      rw [Event.unsummed_append, Event.unsummed_append, logs, last.log]
  | failed error => exact ⟨.failed error, rfl, logs⟩
  | panicked message => exact ⟨.panicked message, rfl, logs⟩

theorem bind_same (action : Action (Event ε) σ φ α) {next : α → Action (Event ε) σ φ β}
    {next' : α → Action (Event ε) σ φ β'} (rest : ∀ value, Echoes later (next value) (next' value)) :
    Echoes later (action >>= next) (action >>= next') := by
  apply (refl action).bind
  intro value value' same
  rw [← same]
  exact rest value

end Echoes

end Action

namespace Validator

variable {ε σ : Type} (services : Services ε σ) (config : Config) (errorSeverity : Int32)
  (forwardSlashes : Bool) (request : Request)

/-! The same configuration, but for how diagnostics are presented. -/

def presenting : Config :=
  { config with errorSeverity, forwardSlashes }

theorem diagnose_echoes (unit : SourceUnit) :
    Action.Echoes (fun _ _ => True) (diagnose ⟨services, config⟩ request unit)
      (diagnose ⟨services, presenting config errorSeverity forwardSlashes⟩ request unit) := by
  apply Action.Echoes.bind_same
  intro scope
  apply Action.Echoes.bind_same
  intro problems
  apply Action.Echoes.bind_same
  intro markers
  apply Action.Echoes.bind_same
  intro resolver
  dsimp only
  rw [Finding.omitted_eq_omitted (reportPath config unit.location) resolver config.errorSeverity
    (reportPath (presenting config errorSeverity forwardSlashes) unit.location) errorSeverity]
  apply Action.Echoes.bind_same
  intro _
  apply Action.Echoes.bind (Action.Echoes.summary _ _ _ _ _ _)
  exact fun _ _ _ => .pure trivial

theorem run_echoes :
    Action.Echoes (fun _ _ => True) (run ⟨services, config⟩ request)
      (run ⟨services, presenting config errorSeverity forwardSlashes⟩ request) := by
  apply Action.Echoes.bind_same
  intro project?
  cases project? with
  | none =>
      apply Action.Echoes.bind_same
      exact fun _ => .pure trivial
  | some project =>
      apply Action.Echoes.bind_same
      intro unit
      apply Action.Echoes.bind_same
      intro _
      apply Action.Echoes.bind_same
      intro _
      apply Action.Echoes.bind_same
      intro _
      cases request.validate with
      | false =>
          apply Action.Echoes.bind_same
          exact fun _ => .pure trivial
      | true =>
          apply (diagnose_echoes services config errorSeverity forwardSlashes request unit).bind
          intro diagnostics diagnostics' _
          cases request.build with
          | false => exact .pure trivial
          | true =>
              apply Action.Echoes.bind_same (scheduleBuild ⟨services, config⟩ project)
              exact fun _ => .pure trivial

/-! The diagnostics of both configurations, one by one. -/

/-- Two diagnostics that present one finding, each as a configuration has it. -/
structure PresentBoth (config config' : Config) (location : Path) (resolver : Resolver)
    (finding : Finding) (left right : Diagnostic) : Prop where
  left_shows : finding.Shows (reportPath config location) resolver config.errorSeverity left
  right_shows : finding.Shows (reportPath config' location) resolver config'.errorSeverity right
  message : left.message = right.message
  line : left.line = right.line
  column : left.column = right.column
  flags : left.isWarning ≠ right.isWarning ↔ ∃ found, finding = .marker found ∧
    ¬ (found.severity = some config.errorSeverity ↔ found.severity = some config'.errorSeverity)

theorem present_both (config config' : Config) (location : Path) {resolver : Resolver}
    {finding : Finding} {position : Position}
    (located : finding.locate resolver = .ok position) :
    PresentBoth config config' location resolver finding
      (finding.present (reportPath config location) config.errorSeverity position)
      (finding.present (reportPath config' location) config'.errorSeverity position) where
  left_shows := Finding.present_shows _ _ _ located
  right_shows := Finding.present_shows _ _ _ located
  message := rfl
  line := rfl
  column := rfl
  flags := Finding.isWarning_ne_iff config.errorSeverity config'.errorSeverity finding

/-- The diagnostics that some reports come to with two configurations. At every index they present
the same finding, and no finding twice. -/
structure PresentAlike (config config' : Config) (location : Path) (reports : Reports)
    (diagnostics diagnostics' : List Diagnostic) : Prop where
  length_eq : diagnostics.length = diagnostics'.length
  origins : ∃ origins : List (Nat × Finding), origins.length = diagnostics.length ∧
    (origins.map Prod.fst).Nodup ∧
    (∀ number finding, (number, finding) ∈ origins →
      (Finding.gathered reports.tree reports.markers)[number]? = some finding) ∧
    ∀ (index number : Nat) (finding : Finding) (left right : Diagnostic),
      origins[index]? = some (number, finding) → diagnostics[index]? = some left →
        diagnostics'[index]? = some right →
          PresentBoth config config' location reports.resolver finding left right

theorem diagnostics_present_alike (config config' : Config) (unit : SourceUnit)
    (reports : Reports) :
    PresentAlike config config' unit.location reports (reports.diagnostics config unit)
      (reports.diagnostics config' unit) := by
  let findings := Finding.gathered reports.tree reports.markers
  let placed := Finding.sited reports.resolver findings
  have presented (config : Config) : reports.diagnostics config unit = placed.map
      (Finding.Sited.present (reportPath config unit.location) config.errorSeverity) := by
    rw [Reports.diagnostics, Finding.all_eq_gathered, Finding.sort_reported_eq_map]
  rw [presented config, presented config']
  constructor
  · rw [List.length_map, List.length_map]
  · refine ⟨placed.map fun sited => (sited.number, sited.finding), ?_, ?_, ?_, ?_⟩
    · rw [List.length_map, List.length_map]
    · rw [List.map_map]
      exact Finding.sited_numbers_nodup reports.resolver findings
    · intro number finding member
      rcases List.mem_map.mp member with ⟨sited, among, same⟩
      cases same
      exact (Finding.mem_sited reports.resolver among).left
    · intro index number finding left right origin shown shown'
      simp only [List.getElem?_map, Option.map_eq_some_iff] at origin shown shown'
      rcases origin with ⟨sited, found, same⟩
      rcases shown with ⟨_, found', rfl⟩
      rcases shown' with ⟨_, found'', rfl⟩
      cases same
      cases found.symm.trans found'
      cases found.symm.trans found''
      exact present_both config config' unit.location
        (Finding.mem_sited reports.resolver (List.mem_of_getElem? found)).right

/-- How diagnostics are presented makes no difference to anything else. With two configurations
that differ in nothing but that, a request makes the same calls in the same order, has the same
answers to them, leaves the services in the same state, and ends alike; and if it ends with
diagnostics, then with both configurations at every index those of the same finding, at the same
line and column, with the same message, and with the same flag unless the finding is a marker that
has just one of the two severities. -/
theorem run_independent_of_presentation (services : Services ε σ) (config : Config)
    (errorSeverity : Int32) (forwardSlashes : Bool) (request : Request) (state : σ) :
    let config' := { config with errorSeverity, forwardSlashes }
    let ran := run ⟨services, config⟩ request state
    let ran' := run ⟨services, config'⟩ request state
    Event.calls ran.log = Event.calls ran'.log ∧ Event.answers ran.log = Event.answers ran'.log ∧
      ran.state = ran'.state ∧
      (ran.outcome = .returned none ↔ ran'.outcome = .returned none) ∧
      (∀ error, ran.outcome = .failed error ↔ ran'.outcome = .failed error) ∧
      (∀ message, ran.outcome = .panicked message ↔ ran'.outcome = .panicked message) ∧
      ∀ diagnostics, ran.outcome = .returned (some diagnostics) →
        ∃ diagnostics', ran'.outcome = .returned (some diagnostics') ∧
          ∃ replies : Replies, Event.answers ran.log = replies.stages config request ∧
            PresentAlike config config' replies.unit.location replies.reports diagnostics
              diagnostics' := by
  intro config' ran ran'
  have echo : Action.Echo (fun _ _ => True) ran ran' :=
    run_echoes services config errorSeverity forwardSlashes request state
  have calls : Event.calls ran.log = Event.calls ran'.log := by
    rw [← Event.calls_unsummed, echo.log, Event.calls_unsummed]
  have answers : Event.answers ran.log = Event.answers ran'.log := by
    rw [← Event.answers_unsummed, echo.log, Event.answers_unsummed]
  have course := run_settles ⟨services, config⟩ request state
  have course' := run_settles ⟨services, config'⟩ request state
  change Course config request (Event.answers ran.log) ran.outcome at course
  change Course config' request (Event.answers ran'.log) ran'.outcome at course'
  -- The answers decide how either request ends, and both have the same ones.
  rw [answers] at course
  refine ⟨calls, answers, echo.state, ?_, ?_, ?_, ?_⟩
  · exact course.returned_none_iff.trans course'.returned_none_iff.symm
  · exact fun error => (course.failed_iff error).trans (course'.failed_iff error).symm
  · exact fun message => (course.panicked_iff message).trans (course'.panicked_iff message).symm
  · intro diagnostics returned
    rcases (course.returned_some_iff diagnostics).mp returned with ⟨wanted, replies, stages, rfl⟩
    refine ⟨replies.reports.diagnostics config' replies.unit, ?_, replies, answers.trans stages, ?_⟩
    · exact (course'.returned_some_iff _).mpr ⟨wanted, replies, stages, rfl⟩
    · exact diagnostics_present_alike config config' replies.unit replies.reports

end Validator

end SourceDiagnostics
