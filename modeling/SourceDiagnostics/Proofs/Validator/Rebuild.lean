import SourceDiagnostics.Proofs.Validator.Completion
import SourceDiagnostics.Proofs.Validator.Course

/-!
The rebuild after a request. A request comes to its diagnostics without any regard to rebuilds
(`Validator.diagnosed`), and only then a rebuild is queued. So whether one is queued depends on the
other services alone (`Validator.exists_schedule_mem_calls_iff`), two runs that differ in whether
and how a rebuild is queued come to the same result, and the log of one goes on where that of the
other ends.
-/

namespace SourceDiagnostics

def Call.isSchedule : Call → Bool
  | .schedule _ => true
  | _ => false

theorem Services.Trail.exists_outcome {ε σ : Type} {services : Services ε σ} {first last : σ}
    {answers : List Answered} (trail : services.Trail first answers last) {answer : Answered}
    (member : answer ∈ answers) :
    ∃ state, answer.outcome = (services answer.call state).outcome := by
  induction trail with
  | nil state => cases member
  | cons state call _ induction =>
      rcases List.mem_cons.mp member with rfl | later
      · exact ⟨state, rfl⟩
      · exact induction later

theorem Services.withBuilds_schedule {ε σ : Type} (services : Services ε σ) :
    (services.withBuilds fun project => services (.schedule project)) = services := by
  funext call
  cases call <;> rfl

namespace Validator

variable {ε σ : Type}

/-! A request up to its diagnostics, with its project along with them, and what is left to do once
they are known. -/

def diagnosed (validator : Validator ε σ) (request : Request) :
    Action (Event ε) σ RequestError (Option (Project × List Diagnostic)) := do
  let { services, config } := validator
  match ← services.ask (.resolve request.project) with
  | none =>
      Action.note (.unknownProject request.project)
      return none
  | some project =>
      let unit ← (services.ask (.findUnit project request.file)).mapError
        fun error => .of request (.unit error)
      (services.ask (.refresh unit config.refreshMode)).mapError
        fun error => .of request (.index error)
      services.ask (.invalidate unit.location)
      Action.note (.refreshed unit.path config.refreshMode)
      if request.validate then
        let diagnostics ← validator.diagnose request unit
        return some (project, diagnostics)
      else
        Action.note (.validationNotRequested unit.path)
        return none

def conclude (validator : Validator ε σ) (request : Request) :
    Option (Project × List Diagnostic) →
      Action (Event ε) σ RequestError (Option (List Diagnostic))
  | none => return none
  | some (project, diagnostics) => do
      if request.build then validator.scheduleBuild project
      return some diagnostics

theorem run_eq_diagnosed_bind (validator : Validator ε σ) (request : Request) :
    validator.run request = validator.diagnosed request >>= validator.conclude request := by
  rcases validator with ⟨services, config⟩
  simp only [run, diagnosed, bind_assoc]
  congr 1
  funext project?
  cases project? with
  | none => simp [conclude]
  | some project =>
      cases request.validate with
      | false => simp [conclude]
      | true => simp [conclude]

theorem diagnosed_withBuilds (services : Services ε σ) (config : Config) (request : Request)
    (schedule : Project → Action ε σ BuildError Unit) (build : Bool) :
    diagnosed ⟨services.withBuilds schedule, config⟩ (request.withBuild build) =
      diagnosed ⟨services, config⟩ request := by
  apply bind_congr
  intro project?
  cases project? <;> rfl

/-! What a rebuild adds to a request: a call, with whatever the service logs, a note unless the
service panicked, and the end of the request if it did. -/

def rebuildNotes (project : Project) : Outcome BuildError Unit → List Note
  | .returned () => [.buildScheduled project.name]
  | .failed error => [.buildNotScheduled project.name error]
  | .panicked _ => []

theorem exists_note_of_not_panicked (project : Project) {outcome : Outcome BuildError Unit}
    (calm : ∀ message, outcome ≠ .panicked message) :
    ∃ note, rebuildNotes project outcome = [note] ∧
      (note.level = .debug ∨ note.level = .warn) := by
  rcases outcome with _ | error | message
  · exact ⟨_, rfl, .inl rfl⟩
  · exact ⟨_, rfl, .inr rfl⟩
  · exact absurd rfl (calm message)

def rebuildLog (project : Project) (log : List ε) (outcome : Outcome BuildError Unit) :
    List (Event ε) :=
  Event.exchange (.schedule project) log outcome ++ (rebuildNotes project outcome).map .noted

def rebuildEnd {φ α : Type} (value : α) : Outcome BuildError Unit → Outcome φ α
  | .panicked message => .panicked message
  | _ => .returned value

theorem scheduleBuild_apply {φ : Type} (validator : Validator ε σ) (project : Project) (state : σ) :
    (validator.scheduleBuild project : Action (Event ε) σ φ Unit) state =
      let queued := validator.services (.schedule project) state
      ⟨rebuildEnd () queued.outcome, queued.state,
        rebuildLog project queued.log queued.outcome⟩ := by
  rw [scheduleBuild, Action.bind_apply, Action.attempt_apply, Services.ask_apply]
  rcases validator.services (.schedule project) state with ⟨⟨⟩ | error | message, final, log⟩
  · rfl
  · rfl
  · simp [Outcome.attempt, rebuildEnd, rebuildLog, rebuildNotes, Event.exchange]

@[simp] theorem calls_rebuildLog (project : Project) (log : List ε)
    (outcome : Outcome BuildError Unit) :
    Event.calls (rebuildLog project log outcome) = [.schedule project] := by
  cases outcome <;> simp [rebuildLog, rebuildNotes, Event.calls_exchange] <;> rfl

@[simp] theorem answers_rebuildLog (project : Project) (log : List ε)
    (outcome : Outcome BuildError Unit) :
    Event.answers (rebuildLog project log outcome) = [⟨.schedule project, outcome⟩] := by
  cases outcome <;> simp [rebuildLog, rebuildNotes, Event.answers_exchange] <;> rfl

/-! Runs with and without a rebuild, by what `diagnosed` comes to. -/

section Runs

variable {services : Services ε σ} {config : Config} {request : Request} {state : σ}

theorem run_withBuilds (services : Services ε σ) (config : Config) (request : Request)
    (schedule : Project → Action ε σ BuildError Unit) (build : Bool) :
    run ⟨services.withBuilds schedule, config⟩ (request.withBuild build) =
      diagnosed ⟨services, config⟩ request >>=
        conclude ⟨services.withBuilds schedule, config⟩ (request.withBuild build) := by
  rw [run_eq_diagnosed_bind, diagnosed_withBuilds]

theorem run_eq_of_undiagnosed
    (missing : ∀ reported,
      (diagnosed ⟨services, config⟩ request state).outcome ≠ .returned (some reported))
    (schedule schedule' : Project → Action ε σ BuildError Unit) (build build' : Bool) :
    run ⟨services.withBuilds schedule, config⟩ (request.withBuild build) state =
      run ⟨services.withBuilds schedule', config⟩ (request.withBuild build') state := by
  rw [run_withBuilds, run_withBuilds, Action.bind_apply, Action.bind_apply]
  rcases ran : diagnosed ⟨services, config⟩ request state with
    ⟨(_ | reported) | error | message, between, log⟩
  · rfl
  · rw [ran] at missing
    exact absurd rfl (missing reported)
  · rfl
  · rfl

variable {project : Project} {diagnostics : List Diagnostic} {between : σ} {log : List (Event ε)}

theorem run_of_diagnosed
    (ran : diagnosed ⟨services, config⟩ request state =
      ⟨.returned (some (project, diagnostics)), between, log⟩)
    (schedule : Project → Action ε σ BuildError Unit) :
    run ⟨services.withBuilds schedule, config⟩ (request.withBuild false) state =
      ⟨.returned (some diagnostics), between, log⟩ := by
  rw [run_withBuilds, Action.bind_apply_of_returned ran]
  simp [conclude, Request.withBuild]

theorem run_rebuilding_of_diagnosed
    (ran : diagnosed ⟨services, config⟩ request state =
      ⟨.returned (some (project, diagnostics)), between, log⟩)
    (schedule : Project → Action ε σ BuildError Unit) :
    run ⟨services.withBuilds schedule, config⟩ (request.withBuild true) state =
      let queued := schedule project between
      ⟨rebuildEnd (some diagnostics) queued.outcome, queued.state,
        log ++ rebuildLog project queued.log queued.outcome⟩ := by
  rw [run_withBuilds, Action.bind_apply_of_returned ran]
  simp only [conclude, Request.withBuild, if_true]
  rw [Action.bind_apply, scheduleBuild_apply]
  simp only [Services.withBuilds]
  rcases schedule project between with ⟨⟨⟩ | error | message, final, log'⟩ <;>
    simp [rebuildEnd]

theorem log_and_state_of_not_rebuilding (schedule : Project → Action ε σ BuildError Unit) :
    let ran := run ⟨services.withBuilds schedule, config⟩ (request.withBuild false) state
    ran.log = (diagnosed ⟨services, config⟩ request state).log ∧
      ran.state = (diagnosed ⟨services, config⟩ request state).state := by
  rw [run_withBuilds, Action.bind_apply]
  rcases diagnosed ⟨services, config⟩ request state with
    ⟨(_ | ⟨project, diagnostics⟩) | error | message, between, log⟩
  all_goals simp [conclude, Request.withBuild]

theorem log_run_of_not_rebuilding (schedule : Project → Action ε σ BuildError Unit) :
    (run ⟨services.withBuilds schedule, config⟩ (request.withBuild false) state).log =
      (diagnosed ⟨services, config⟩ request state).log :=
  (log_and_state_of_not_rebuilding schedule).left

theorem diagnosed_recorded (services : Services ε σ) (config : Config) (request : Request) :
    (diagnosed ⟨services, config⟩ request).Traces services.Recorded := by
  intro state
  have recorded := run_recorded
    ⟨services.withBuilds fun project => services (.schedule project), config⟩
    (request.withBuild false) state
  rw [(log_and_state_of_not_rebuilding _).left,
    (log_and_state_of_not_rebuilding _).right] at recorded
  rwa [Services.withBuilds_schedule] at recorded

/-- Whether rebuilds panic, and how, does not show in what leads up to the diagnostics. So no
rebuild is queued there. -/
theorem not_isSchedule_of_mem_answers_diagnosed {answer : Answered}
    (member : answer ∈ Event.answers (diagnosed ⟨services, config⟩ request state).log) :
    answer.call.isSchedule = false := by
  have panicked (message : String) :
      ∃ state, answer.outcome =
        ((services.withBuilds fun _ => .panic message) answer.call state).outcome := by
    have recorded := run_recorded ⟨services.withBuilds fun _ => .panic message, config⟩
      (request.withBuild false) state
    rw [log_run_of_not_rebuilding] at recorded
    exact recorded.trail.exists_outcome member
  rcases answer with ⟨call, outcome⟩
  cases call with
  | schedule project =>
      -- A rebuild queued there would have panicked with both of two different messages.
      rcases panicked "" with ⟨_, first⟩
      rcases panicked "other" with ⟨_, second⟩
      injection first.symm.trans second with same
      exact absurd same (by decide)
  | _ => rfl

theorem stages_withBuild_true (wanted : request.validate = true) (replies : Replies) :
    replies.stages config (request.withBuild true) =
      replies.stages config (request.withBuild false) ++
        [⟨.schedule replies.project, .ofExcept replies.scheduled⟩] := by
  simp [Replies.stages, rebuilding, refreshing, Request.withBuild, wanted]

theorem stages_of_diagnosed
    (ran : diagnosed ⟨services, config⟩ request state =
      ⟨.returned (some (project, diagnostics)), between, log⟩) :
    request.validate = true ∧ ∃ replies : Replies, replies.project = project ∧
      Event.answers log = replies.stages config (request.withBuild false) ∧
      services.Trail state (replies.stages config (request.withBuild false)) between := by
  have recorded := diagnosed_recorded services config request state
  rw [ran] at recorded
  let queues (_ : Project) : Action ε σ BuildError Unit := fun state => ⟨.returned (), state, []⟩
  have course := run_settles ⟨services.withBuilds queues, config⟩ (request.withBuild true) state
  rw [run_rebuilding_of_diagnosed ran queues] at course
  rcases (course.returned_some_iff diagnostics).mp rfl with ⟨wanted, replies, answered, _⟩
  have wanted : request.validate = true := wanted
  change Event.answers (log ++ rebuildLog project [] (.returned ())) =
    replies.stages config (request.withBuild true) at answered
  rw [stages_withBuild_true wanted, Event.answers_append] at answered
  rcases List.append_inj' answered rfl with ⟨earlier, last⟩
  injection last with scheduled _
  injection scheduled with call _
  injection call with same
  exact ⟨wanted, replies, same.symm, earlier, earlier ▸ recorded.trail⟩

theorem diagnosed_follows (services : Services ε σ) (config : Config)
    (wanted : request.validate = true) (replies : Replies) :
    (diagnosed ⟨services, config⟩ request).Follows services
      (replies.stages config (request.withBuild false))
      (some (replies.project, replies.reports.diagnostics config replies.unit)) := by
  rcases replies with ⟨project, unit, reports, scheduled⟩
  have reported := diagnose_follows ⟨services, config⟩ request unit reports
  have rest : (if request.validate then do
      let diagnostics ← diagnose ⟨services, config⟩ request unit
      return some (project, diagnostics)
    else do
      Action.note (.validationNotRequested unit.path)
      return none).Follows services (reports.stages config unit ++ [])
        (some (project, reports.diagnostics config unit)) := by
    rw [if_pos wanted]
    exact reported.bind .pure
  have stages : Replies.stages config (request.withBuild false) ⟨project, unit, reports, scheduled⟩ =
      refreshing config request project unit ++ (reports.stages config unit ++ []) := by
    simp [Replies.stages, rebuilding, refreshing, Request.withBuild, wanted]
  rw [stages]
  apply Action.Follows.bind (.mapError (.ask (.resolve request.project)))
  apply Action.Follows.bind (.mapError (.ask (.findUnit project request.file)))
  apply Action.Follows.bind (.mapError (.ask (.refresh unit config.refreshMode)))
  apply Action.Follows.bind (.mapError (.ask (.invalidate unit.location)))
  exact .note_bind rest

theorem schedule_not_mem_calls_diagnosed (services : Services ε σ) (config : Config)
    (request : Request) (state : σ) (project : Project) :
    .schedule project ∉ Event.calls (diagnosed ⟨services, config⟩ request state).log := by
  rw [(diagnosed_recorded services config request state).all_answered]
  intro asked
  rcases List.mem_map.mp asked with ⟨answer, member, same⟩
  have other := not_isSchedule_of_mem_answers_diagnosed member
  rw [same] at other
  cases other

theorem diagnosed_or_not (services : Services ε σ) (config : Config) (request : Request)
    (state : σ) :
    (∃ project diagnostics between log, diagnosed ⟨services, config⟩ request state =
        ⟨.returned (some (project, diagnostics)), between, log⟩) ∨
      ∀ reported, (diagnosed ⟨services, config⟩ request state).outcome ≠ .returned (some reported) := by
  rcases diagnosed ⟨services, config⟩ request state with
    ⟨(_ | ⟨project, diagnostics⟩) | error | message, between, log⟩
  · exact .inr nofun
  · exact .inl ⟨project, diagnostics, between, log, rfl⟩
  · exact .inr nofun
  · exact .inr nofun

/-- A run that queues a rebuild has come to diagnostics and goes on from there; any other run logs
what leads up to the diagnostics and nothing more. -/
theorem rebuilding_or_not (services : Services ε σ) (config : Config) (request : Request) (state : σ)
    (schedule : Project → Action ε σ BuildError Unit) (build : Bool) :
    (build = true ∧ ∃ project diagnostics between log,
        diagnosed ⟨services, config⟩ request state =
          ⟨.returned (some (project, diagnostics)), between, log⟩) ∨
      ¬ (build = true ∧ ∃ reported,
          (diagnosed ⟨services, config⟩ request state).outcome = .returned (some reported)) ∧
        run ⟨services.withBuilds schedule, config⟩ (request.withBuild build) state =
          run ⟨services.withBuilds schedule, config⟩ (request.withBuild false) state := by
  cases build with
  | false => exact .inr ⟨nofun, rfl⟩
  | true =>
      rcases diagnosed_or_not services config request state with reached | missing
      · exact .inl ⟨rfl, reached⟩
      · exact .inr ⟨fun ⟨_, reported, same⟩ => missing reported same,
          run_eq_of_undiagnosed missing schedule schedule true false⟩

theorem exists_schedule_mem_calls_iff (schedule : Project → Action ε σ BuildError Unit)
    (build : Bool) :
    (∃ project, .schedule project ∈ Event.calls
        (run ⟨services.withBuilds schedule, config⟩ (request.withBuild build) state).log) ↔
      request.validate = true ∧ build = true ∧ ∃ (replies : Replies) (final : σ),
        services.Trail state (replies.stages config (request.withBuild false)) final := by
  rcases rebuilding_or_not services config request state schedule build with
    ⟨rfl, project, diagnostics, between, log, ran⟩ | ⟨unwanted, same⟩
  · rcases stages_of_diagnosed ran with ⟨wanted, replies, _, _, trail⟩
    rw [run_rebuilding_of_diagnosed ran]
    exact iff_of_true ⟨project, by simp⟩ ⟨wanted, rfl, replies, between, trail⟩
  · rw [same, log_run_of_not_rebuilding]
    refine iff_of_false ?_ ?_
    · exact fun ⟨project, asked⟩ =>
        schedule_not_mem_calls_diagnosed services config request state project asked
    · exact fun ⟨wanted, building, replies, final, trail⟩ => unwanted ⟨building, _,
        (diagnosed_follows services config wanted replies state final trail).left⟩

theorem answers_of_schedule_mem_calls {schedule : Project → Action ε σ BuildError Unit}
    {build : Bool} {project : Project}
    (asked : .schedule project ∈ Event.calls
      (run ⟨services.withBuilds schedule, config⟩ (request.withBuild build) state).log) :
    ∃ (replies : Replies) (between : σ), replies.project = project ∧
      services.Trail state (replies.stages config (request.withBuild false)) between ∧
      Event.answers
          (run ⟨services.withBuilds schedule, config⟩ (request.withBuild build) state).log =
        replies.stages config (request.withBuild false) ++
          [⟨.schedule project, (schedule project between).outcome⟩] := by
  rcases rebuilding_or_not services config request state schedule build with
    ⟨rfl, project', diagnostics, between, log, ran⟩ | ⟨_, same⟩
  · rcases stages_of_diagnosed ran with ⟨_, replies, rfl, answered, trail⟩
    have silent := schedule_not_mem_calls_diagnosed services config request state project
    rw [ran] at silent
    rw [run_rebuilding_of_diagnosed ran] at asked ⊢
    simp only [Event.calls_append, calls_rebuildLog, List.mem_append, silent, false_or,
      List.mem_singleton, Call.schedule.injEq] at asked
    subst asked
    refine ⟨replies, between, rfl, trail, ?_⟩
    rw [Event.answers_append, answers_rebuildLog, answered]
  · rw [same, log_run_of_not_rebuilding] at asked
    exact absurd asked (schedule_not_mem_calls_diagnosed services config request state project)

theorem outcome_of_diagnosed
    (ran : diagnosed ⟨services, config⟩ request state =
      ⟨.returned (some (project, diagnostics)), between, log⟩)
    {schedule : Project → Action ε σ BuildError Unit} {build : Bool}
    (calm : ∀ project message, ⟨.schedule project, .panicked message⟩ ∉ Event.answers
      (run ⟨services.withBuilds schedule, config⟩ (request.withBuild build) state).log) :
    (run ⟨services.withBuilds schedule, config⟩ (request.withBuild build) state).outcome =
      .returned (some diagnostics) := by
  cases build with
  | false => rw [run_of_diagnosed ran]
  | true =>
      rw [run_rebuilding_of_diagnosed ran] at calm ⊢
      cases queued : (schedule project between).outcome with
      | returned value => simp [rebuildEnd, queued]
      | failed error => simp [rebuildEnd, queued]
      | panicked message =>
          refine absurd ?_ (calm project message)
          simp [queued]

end Runs

/-- A request comes to its diagnostics without regard to rebuilds. With the log a true account of
the calls, a rebuild is queued just if the request asks for diagnostics and for a rebuild and the
services answer all stages before that; it is queued once, after everything else, for the project
that was resolved. Two runs that differ in whether and how a rebuild is queued come to the same
result, unless queueing it panics, and the log of the one without a rebuild is what the log of the
other begins with. A panic comes last of all. -/
theorem run_decoupled_from_rebuild (services : Services ε σ) (config : Config) (request : Request)
    (state : σ) :
    let run (schedule : Project → Action ε σ BuildError Unit) (build : Bool) :=
      Validator.run ⟨services.withBuilds schedule, config⟩ (request.withBuild build) state
    (∀ schedule build,
      let answers := Event.answers (run schedule build).log
      let calls := Event.calls (run schedule build).log
      (services.withBuilds schedule).Recorded state (run schedule build).log
        (run schedule build).state ∧
      ((∃ project, .schedule project ∈ calls) ↔
        request.validate = true ∧ build = true ∧ ∃ (replies : Replies) (final : σ),
          services.Trail state (replies.stages config (request.withBuild false)) final) ∧
      ∀ project, .schedule project ∈ calls →
        ∃ (replies : Replies) (between : σ), replies.project = project ∧
          services.Trail state (replies.stages config (request.withBuild false)) between ∧
          answers = replies.stages config (request.withBuild false) ++
            [⟨.schedule project, (schedule project between).outcome⟩]) ∧
    (∀ schedule build schedule' build',
      (∀ project message,
        ⟨.schedule project, .panicked message⟩ ∉ Event.answers (run schedule build).log ∧
        ⟨.schedule project, .panicked message⟩ ∉ Event.answers (run schedule' build').log) →
      (run schedule build).outcome = (run schedule' build').outcome) ∧
    (∀ schedule schedule',
      (run schedule' true).log = (run schedule false).log ∨
        ∃ project, let queued := schedule' project (run schedule false).state
          (run schedule' true).log =
              (run schedule false).log ++ rebuildLog project queued.log queued.outcome ∧
            ((∀ message, queued.outcome ≠ .panicked message) →
              ∃ note, rebuildNotes project queued.outcome = [note] ∧
                (note.level = .debug ∨ note.level = .warn))) ∧
    ∀ schedule build project message,
      ⟨.schedule project, .panicked message⟩ ∈ Event.answers (run schedule build).log →
        (run schedule build).outcome = .panicked message ∧
        Event.answers (run schedule build).log =
          Event.answers (run schedule false).log ++ [⟨.schedule project, .panicked message⟩] := by
  intro run
  refine ⟨fun schedule build => ⟨?_, exists_schedule_mem_calls_iff schedule build,
    fun project asked => answers_of_schedule_mem_calls asked⟩, ?_, ?_, ?_⟩
  · exact run_recorded ⟨services.withBuilds schedule, config⟩ (request.withBuild build) state
  · intro schedule build schedule' build' calm
    rcases diagnosed_or_not services config request state with
      ⟨project, diagnostics, between, log, ran⟩ | missing
    · exact (outcome_of_diagnosed ran fun project message => (calm project message).left).trans
        (outcome_of_diagnosed ran fun project message => (calm project message).right).symm
    · exact congrArg Ran.outcome (run_eq_of_undiagnosed missing schedule schedule' build build')
  · intro schedule schedule'
    rcases diagnosed_or_not services config request state with
      ⟨project, diagnostics, between, log, ran⟩ | missing
    · refine .inr ⟨project, ?_⟩
      dsimp only [run]
      rw [run_of_diagnosed ran, run_rebuilding_of_diagnosed ran]
      exact ⟨rfl, exists_note_of_not_panicked project⟩
    · exact .inl (congrArg Ran.log (run_eq_of_undiagnosed missing schedule' schedule true false))
  · intro schedule build project message answered
    rcases rebuilding_or_not services config request state schedule build with
      ⟨rfl, project', diagnostics, between, log, ran⟩ | ⟨_, same⟩
    · have silent (answer : Answered) (member : answer ∈ Event.answers log) :
          answer.call.isSchedule = false :=
        not_isSchedule_of_mem_answers_diagnosed (by rw [ran]; exact member)
      dsimp only [run] at answered ⊢
      rw [run_rebuilding_of_diagnosed ran] at answered ⊢
      rw [run_of_diagnosed ran]
      simp only [Event.answers_append, answers_rebuildLog, List.mem_append,
        List.mem_singleton] at answered ⊢
      rcases answered with earlier | last
      · cases silent _ earlier
      · have outcome : (schedule project' between).outcome = .panicked message := by
          injection last with _ same
          exact same.symm
        rw [last, outcome]
        exact ⟨rfl, rfl⟩
    · dsimp only [run] at answered
      rw [same, log_run_of_not_rebuilding] at answered
      cases not_isSchedule_of_mem_answers_diagnosed answered

end Validator

end SourceDiagnostics
