import SourceDiagnostics.Proofs.Validator.Stages
import SourceDiagnostics.Proofs.Validator.Traces

/-!
The course of a request. `Course` lists what can be answered while a request is dealt with,
together with how it then ends; `run_settles` says that every request takes such a course, and
`Course.unique` that the answers leave no choice of the end. So how a request ends can be read off
the calls that were answered, and the other way round.
-/

namespace SourceDiagnostics

namespace Validator

def refreshing (config : Config) (request : Request) (project : Project) (unit : SourceUnit) :
    List Answered :=
  [⟨.resolve request.project, .returned (some project)⟩,
    ⟨.findUnit project request.file, .returned unit⟩,
    ⟨.refresh unit config.refreshMode, .returned ()⟩,
    ⟨.invalidate unit.location, .returned ()⟩]

def rebuilding (request : Request) (project : Project) (scheduled : Except BuildError Unit) :
    List Answered :=
  if request.build then [⟨.schedule project, .ofExcept scheduled⟩] else []

end Validator

/-- What is replied to a request whose project is known, if no stage fails. Whether a rebuild could
be queued makes no difference to the stages. -/
structure Replies where
  project : Project
  unit : SourceUnit
  reports : Reports := default
  scheduled : Except BuildError Unit := .ok ()

def Replies.stages (config : Config) (request : Request) (replies : Replies) : List Answered :=
  Validator.refreshing config request replies.project replies.unit ++
    if request.validate then
      replies.reports.stages config replies.unit ++
        Validator.rebuilding request replies.project replies.scheduled
    else []

inductive Course (config : Config) (request : Request) :
    List Answered → Outcome RequestError (Option (List Diagnostic)) → Prop
  | unknown : Course config request [⟨.resolve request.project, .returned none⟩] (.returned none)
  | refreshed (replies : Replies) (unwanted : request.validate = false) :
      Course config request (replies.stages config request) (.returned none)
  | reported (replies : Replies) (wanted : request.validate = true) :
      Course config request (replies.stages config request)
        (.returned (some (replies.reports.diagnostics config replies.unit)))
  | stopped (replies : Replies) {failed : Answered} {answers : List Answered} {error : RequestError}
      (at_failure : StoppedAt failed (replies.stages config request) answers)
      (blamed : Validator.Blames request error failed) :
      Course config request answers (.failed error)
  | panicked {answers : List Answered} {message : String}
      (first : answers.findSome? Answered.panic? = some message) :
      Course config request answers (.panicked message)

namespace Validator

variable {ε σ φ : Type}

/-! Every request takes such a course. Queueing a rebuild never fails, whatever becomes of it. -/

theorem scheduleBuild_settles (validator : Validator ε σ) (project : Project) :
    (validator.scheduleBuild project : Action (Event ε) σ φ Unit).Settles
      (Staged (fun scheduled => [⟨.schedule project, .ofExcept scheduled⟩]) (fun _ => ())
        fun _ _ => False) := by
  apply Action.Settles.ask_attempt_bind validator.services (.schedule project)
  · intro scheduled
    cases scheduled with
    | ok reply => exact .note (Staged.completed (Except.ok ()))
    | error error => exact .note (Staged.completed (Except.error error))
  · exact fun message => .panicked rfl

private theorem settles_after_refresh (validator : Validator ε σ) (request : Request)
    (project : Project) (unit : SourceUnit) :
    (if request.validate then do
      let diagnostics ← validator.diagnose request unit
      if request.build then validator.scheduleBuild project
      return some diagnostics
    else do
      Action.note (.validationNotRequested unit.path)
      return none : Action (Event ε) σ RequestError (Option (List Diagnostic))).Settles
      fun answers outcome => Course validator.config request
        (refreshing validator.config request project unit ++ answers) outcome := by
  cases wanted : request.validate with
  | false =>
      have refreshed : Course validator.config request
          (refreshing validator.config request project unit ++ []) (.returned none) := by
        have course : Course validator.config request _ _ :=
          .refreshed ⟨project, unit, default, .ok ()⟩ wanted
        rwa [Replies.stages, wanted] at course
      exact .note_bind (.pure refreshed)
  | true =>
      apply (validator.diagnose_settles request unit).staged_bind
      case stopped =>
        intro reports failed answers error at_failure blamed
        apply Course.stopped ⟨project, unit, reports, .ok ()⟩ _ blamed
        rw [Replies.stages, wanted]
        exact at_failure.frame _ _
      case panicked => exact fun answers message first => .panicked first
      intro reports
      have reported (scheduled : Except BuildError Unit) : Course validator.config request
          (refreshing validator.config request project unit ++
            (reports.stages validator.config unit ++ rebuilding request project scheduled))
          (.returned (some (reports.diagnostics validator.config unit))) := by
        have course : Course validator.config request _ _ :=
          .reported ⟨project, unit, reports, scheduled⟩ wanted
        rwa [Replies.stages, wanted] at course
      cases building : request.build with
      | false => exact .pure (by simpa [rebuilding, building] using reported (.ok ()))
      | true =>
          apply (validator.scheduleBuild_settles project).staged_bind
          case stopped => exact fun _ _ _ _ _ blamed => blamed.elim
          case panicked => exact fun answers message first => .panicked first
          intro scheduled
          exact .pure (by simpa [rebuilding, building] using reported scheduled)

theorem run_settles (validator : Validator ε σ) (request : Request) :
    (validator.run request).Settles (Course validator.config request) := by
  rcases validator with ⟨services, config⟩
  apply Action.Settles.ask_mapError_bind services (.resolve request.project)
  case failed => exact fun error => error.elim
  case panicked => exact fun message => .panicked rfl
  intro project?
  cases project? with
  | none => exact .note_bind (.pure .unknown)
  | some project =>
      apply Action.Settles.ask_mapError_bind services (.findUnit project request.file)
      case failed =>
        intro error
        exact .stopped ⟨project, default, default, .ok ()⟩
          (.intro [_] ⟨.findUnit project request.file, .returned default⟩ _ rfl) ⟨_, rfl, rfl⟩
      case panicked => exact fun message => .panicked rfl
      intro unit
      apply Action.Settles.ask_mapError_bind services (.refresh unit config.refreshMode)
      case failed =>
        intro error
        exact .stopped ⟨project, unit, default, .ok ()⟩
          (.intro [_, _] ⟨.refresh unit config.refreshMode, .returned ()⟩ _ rfl) ⟨_, rfl, rfl⟩
      case panicked => exact fun message => .panicked rfl
      intro _
      apply Action.Settles.ask_mapError_bind services (.invalidate unit.location)
      case failed => exact fun error => error.elim
      case panicked => exact fun message => .panicked rfl
      intro _
      apply Action.Settles.note_bind
      exact settles_after_refresh ⟨services, config⟩ request project unit

end Validator

/-! The answers leave no choice of the end. -/

def Answered.Harmless (answer : Answered) : Prop :=
  answer.panic? = none ∧ answer.cause? = none

theorem Reports.harmless_of_mem_stages {config : Config} {unit : SourceUnit} (reports : Reports) :
    ∀ answer ∈ reports.stages config unit, answer.Harmless := by
  simp only [stages, Services.parsing, Services.checking, List.cons_append, List.nil_append,
    List.forall_mem_cons]
  refine ⟨?_, ?_, ?_, ?_, ?_, ?_, ?_, List.forall_mem_nil _⟩ <;> exact ⟨rfl, rfl⟩

theorem Validator.harmless_of_mem_refreshing {config : Config} {request : Request}
    {project : Project} {unit : SourceUnit} :
    ∀ answer ∈ refreshing config request project unit, answer.Harmless := by
  simp only [refreshing, List.forall_mem_cons]
  refine ⟨?_, ?_, ?_, ?_, List.forall_mem_nil _⟩ <;> exact ⟨rfl, rfl⟩

theorem Validator.harmless_of_mem_rebuilding {request : Request} {project : Project}
    {scheduled : Except BuildError Unit} :
    ∀ answer ∈ rebuilding request project scheduled, answer.Harmless := by
  intro answer member
  rw [rebuilding] at member
  cases building : request.build with
  | false => simp [building] at member
  | true =>
      cases scheduled <;> simp [building] at member <;> subst member <;> exact ⟨rfl, rfl⟩

theorem Replies.harmless_of_mem_stages {config : Config} {request : Request} (replies : Replies) :
    ∀ answer ∈ replies.stages config request, answer.Harmless := by
  intro answer member
  rw [stages] at member
  rcases List.mem_append.mp member with early | late
  · exact Validator.harmless_of_mem_refreshing answer early
  · cases wanted : request.validate with
    | false => simp [wanted] at late
    | true =>
        rw [wanted, if_pos rfl] at late
        rcases List.mem_append.mp late with reported | scheduled
        · exact replies.reports.harmless_of_mem_stages answer reported
        · exact Validator.harmless_of_mem_rebuilding answer scheduled

theorem Answered.findSome?_panic?_of_harmless {answers : List Answered}
    (harmless : ∀ answer ∈ answers, answer.Harmless) : answers.findSome? panic? = none :=
  List.findSome?_eq_none_iff.mpr fun answer member => (harmless answer member).left

theorem Answered.findSome?_cause?_of_harmless {answers : List Answered}
    (harmless : ∀ answer ∈ answers, answer.Harmless) : answers.findSome? cause? = none :=
  List.findSome?_eq_none_iff.mpr fun answer member => (harmless answer member).right

theorem Answered.harmless_of_mem_cleanup (failed : Answered) :
    ∀ answer ∈ failed.cleanup, answer.Harmless := by
  intro answer member
  rcases failed with ⟨call, outcome⟩
  cases call with
  | buildTree unit style =>
      rw [List.mem_singleton.mp member]
      exact ⟨rfl, rfl⟩
  | _ => cases member

theorem StoppedAt.findSome? {failed : Answered} {stages answers : List Answered}
    {cause : RequestError.Cause} (at_failure : StoppedAt failed stages answers)
    (harmless : ∀ answer ∈ stages, answer.Harmless) (caused : failed.cause? = some cause) :
    answers.findSome? Answered.panic? = none ∧ answers.findSome? Answered.cause? = some cause := by
  cases at_failure with
  | intro front succeeded back same =>
      have unharmed : ∀ answer ∈ front, answer.Harmless := fun answer member =>
        harmless answer (List.mem_append_left _ member)
      have cleaned := failed.harmless_of_mem_cleanup
      constructor
      · rw [List.findSome?_append, Answered.findSome?_panic?_of_harmless unharmed,
          List.findSome?_cons, Answered.panic?_of_cause? caused,
          Answered.findSome?_panic?_of_harmless cleaned]
        rfl
      · rw [List.findSome?_append, Answered.findSome?_cause?_of_harmless unharmed,
          List.findSome?_cons, caused]
        rfl

namespace Course

variable {config : Config} {request : Request} {answers : List Answered}
  {outcome : Outcome RequestError (Option (List Diagnostic))}

theorem read (course : Course config request answers outcome) :
    (∃ message, answers.findSome? Answered.panic? = some message ∧ outcome = .panicked message) ∨
      answers.findSome? Answered.panic? = none ∧
        ((∃ cause, answers.findSome? Answered.cause? = some cause ∧
            outcome = .failed (.of request cause)) ∨
          answers.findSome? Answered.cause? = none ∧ ∃ value, outcome = .returned value) := by
  cases course with
  | unknown => exact .inr ⟨rfl, .inr ⟨rfl, _, rfl⟩⟩
  | refreshed replies unwanted =>
      have harmless : ∀ answer ∈ replies.stages config request, answer.Harmless :=
        replies.harmless_of_mem_stages
      exact .inr ⟨Answered.findSome?_panic?_of_harmless harmless,
        .inr ⟨Answered.findSome?_cause?_of_harmless harmless, _, rfl⟩⟩
  | reported replies wanted =>
      have harmless : ∀ answer ∈ replies.stages config request, answer.Harmless :=
        replies.harmless_of_mem_stages
      exact .inr ⟨Answered.findSome?_panic?_of_harmless harmless,
        .inr ⟨Answered.findSome?_cause?_of_harmless harmless, _, rfl⟩⟩
  | stopped replies at_failure blamed =>
      rcases blamed with ⟨cause, caused, rfl⟩
      have found := at_failure.findSome? replies.harmless_of_mem_stages caused
      exact .inr ⟨found.left, .inl ⟨cause, found.right, rfl⟩⟩
  | panicked first => exact .inl ⟨_, first, rfl⟩

end Course

theorem Replies.stages_eq (config : Config) {request : Request} (replies : Replies)
    (wanted : request.validate = true) :
    replies.stages config request =
      ([⟨.resolve request.project, .returned (some replies.project)⟩,
        ⟨.findUnit replies.project request.file, .returned replies.unit⟩,
        ⟨.refresh replies.unit config.refreshMode, .returned ()⟩] ++
        ⟨.invalidate replies.unit.location, .returned ()⟩ ::
          (⟨.projects, .returned replies.reports.scope⟩ ::
            (Services.parsing replies.reports.scope replies.unit config.treeStyle
                replies.reports.tree ++
              Services.checking replies.unit.resource replies.reports.markers))) ++
        ⟨.load replies.unit.location, .returned replies.reports.resolver⟩ ::
          Validator.rebuilding request replies.project replies.scheduled := by
  simp [stages, wanted, Validator.refreshing, Reports.stages]

/-- The stages of a request for diagnostics tell what its diagnostics are made from. -/
theorem Replies.stages_inj {config : Config} {request : Request} {left right : Replies}
    (wanted : request.validate = true)
    (equal : left.stages config request = right.stages config request) :
    left.unit = right.unit ∧ left.reports = right.reports := by
  rcases left with ⟨project, unit, ⟨scope, tree, markers, resolver⟩, scheduled⟩
  rcases right with ⟨project', unit', ⟨scope', tree', markers', resolver'⟩, scheduled'⟩
  simp [stages, wanted, Validator.refreshing, Reports.stages, Services.parsing,
    Services.checking] at equal
  rcases equal with ⟨_, _, rfl, _, rfl, ⟨_, rfl⟩, _, ⟨_, rfl⟩, ⟨_, rfl⟩, _⟩
  exact ⟨rfl, rfl⟩

theorem Course.unique {config : Config} {request : Request} {answers : List Answered}
    {left right : Outcome RequestError (Option (List Diagnostic))}
    (first : Course config request answers left) (second : Course config request answers right) :
    left = right := by
  rcases first.read with
    ⟨message, panic, rfl⟩ | ⟨calm, ⟨cause, caused, rfl⟩ | ⟨causeless, value, rfl⟩⟩
  · rcases second.read with ⟨_, panic', rfl⟩ | ⟨calm, _⟩
    · rw [panic] at panic'
      cases panic'
      rfl
    · rw [panic] at calm
      cases calm
  · rcases second.read with ⟨_, panic, _⟩ | ⟨_, ⟨_, caused', rfl⟩ | ⟨causeless, _⟩⟩
    · rw [calm] at panic
      cases panic
    · rw [caused] at caused'
      cases caused'
      rfl
    · rw [caused] at causeless
      cases causeless
  · rcases second.read with ⟨_, panic, _⟩ | ⟨_, ⟨_, caused, _⟩ | ⟨_, value', rfl⟩⟩
    · rw [calm] at panic
      cases panic
    · rw [causeless] at caused
      cases caused
    · generalize same : answers = answers' at second
      cases first with
      | unknown =>
        cases second with
        | unknown => rfl
        | refreshed replies unwanted => rfl
        | reported replies wanted => simp [Replies.stages, Validator.refreshing] at same
      | refreshed replies unwanted =>
        cases second with
        | unknown => rfl
        | refreshed replies' _ => rfl
        | reported replies' wanted => simp_all
      | reported replies wanted =>
        cases second with
        | unknown => simp [Replies.stages, Validator.refreshing] at same
        | refreshed replies' unwanted => simp_all
        | reported replies' _ =>
            rcases Replies.stages_inj wanted same with ⟨units, reports⟩
            rw [units, reports]

namespace Course

variable {config : Config} {request : Request} {answers : List Answered}
  {outcome : Outcome RequestError (Option (List Diagnostic))}

theorem returned_none_iff (course : Course config request answers outcome) :
    outcome = .returned none ↔
      answers = [⟨.resolve request.project, .returned none⟩] ∨
        request.validate = false ∧
          ∃ project unit, answers = Validator.refreshing config request project unit := by
  constructor
  · intro same
    subst same
    cases course with
    | unknown => exact .inl rfl
    | refreshed replies unwanted =>
        refine .inr ⟨unwanted, replies.project, replies.unit, ?_⟩
        rw [Replies.stages, unwanted]
        exact List.append_nil _
  · intro given
    rcases given with rfl | ⟨unwanted, project, unit, rfl⟩
    · exact course.unique .unknown
    · have refreshed : Course config request _ _ :=
        .refreshed ⟨project, unit, default, .ok ()⟩ unwanted
      rw [Replies.stages, unwanted, if_neg Bool.false_ne_true, List.append_nil] at refreshed
      exact course.unique refreshed

theorem failed_iff (course : Course config request answers outcome) (error : RequestError) :
    outcome = .failed error ↔
      ∃ (replies : Replies) (failed : Answered),
        StoppedAt failed (replies.stages config request) answers ∧
          Validator.Blames request error failed := by
  constructor
  · intro same
    subst same
    cases course with
    | stopped replies at_failure blamed => exact ⟨replies, _, at_failure, blamed⟩
  · intro given
    rcases given with ⟨replies, failed, at_failure, blamed⟩
    exact course.unique (.stopped replies at_failure blamed)

theorem returned_some_iff (course : Course config request answers outcome)
    (diagnostics : List Diagnostic) :
    outcome = .returned (some diagnostics) ↔
      request.validate = true ∧ ∃ replies : Replies,
        answers = replies.stages config request ∧
          diagnostics = replies.reports.diagnostics config replies.unit := by
  constructor
  · intro same
    subst same
    cases course with
    | reported replies wanted => exact ⟨wanted, replies, rfl, rfl⟩
  · intro given
    rcases given with ⟨wanted, replies, rfl, rfl⟩
    exact course.unique (.reported replies wanted)

theorem panicked_iff (course : Course config request answers outcome) (message : String) :
    outcome = .panicked message ↔ answers.findSome? Answered.panic? = some message := by
  constructor
  · intro same
    subst same
    cases course with
    | panicked first => exact first
  · exact fun first => course.unique (.panicked first)

end Course

/-- How a request ends is decided by the first stage that fails, and by nothing else. With the log
a true account of the calls, a request comes to nothing if its project is unknown, or if it does
not ask for diagnostics and its unit was brought up to date; it fails if it was stopped by a stage
that failed, with the error of that stage; it comes to diagnostics if all its stages returned, with
those that the replies come to; and it panics with the first call that does. -/
theorem Validator.run_decided_by_first_failure {ε σ : Type} (validator : Validator ε σ)
    (request : Request) (state : σ) :
    let ran := validator.run request state
    let answers := Event.answers ran.log
    validator.services.Recorded state ran.log ran.state ∧
      (ran.outcome = .returned none ↔
        answers = [⟨.resolve request.project, .returned none⟩] ∨
          request.validate = false ∧
            ∃ project unit, answers = refreshing validator.config request project unit) ∧
      (∀ error, ran.outcome = .failed error ↔
        ∃ (replies : Replies) (failed : Answered),
          StoppedAt failed (replies.stages validator.config request) answers ∧
            Blames request error failed) ∧
      (∀ diagnostics, ran.outcome = .returned (some diagnostics) ↔
        request.validate = true ∧ ∃ replies : Replies,
          answers = replies.stages validator.config request ∧
            diagnostics = replies.reports.diagnostics validator.config replies.unit) ∧
      ∀ message, ran.outcome = .panicked message ↔
        answers.findSome? Answered.panic? = some message := by
  intro ran answers
  have course := validator.run_settles request state
  exact ⟨validator.run_recorded request state, course.returned_none_iff, course.failed_iff,
    course.returned_some_iff, course.panicked_iff⟩

end SourceDiagnostics
