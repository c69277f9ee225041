import Mathlib.Data.List.Perm.Basic
import SourceDiagnostics.Proofs.Validator.Rebuild
import SourceDiagnostics.Workshop

/-!
The accounts of a workshop. Scheduling a build adds its project to the queue; a build that the pool
does takes its project off again, and leaves a warning just if it fails. So from any moment to any
later one, what was built and what is queued in the end is what was queued at first and what was
scheduled, and the warnings are those of the builds that failed (`Accounts`). Nothing else touches
the queue or warns, since the validator warns only of builds that cannot be scheduled, and in a
workshop they all can.
-/

namespace SourceDiagnostics.Workshop

variable {ε δ ρ β φ : Type}

/-! What a log says of builds. -/

def scheduled? : SourceDiagnostics.Event (Event ε δ) → Option Project
  | .asked (.schedule project) => some project
  | _ => none

def built? : SourceDiagnostics.Event (Event ε δ) → Option (Project × Outcome BuildError Unit)
  | .service (.built project outcome) => some (project, outcome)
  | _ => none

def warning? : SourceDiagnostics.Event (Event ε δ) → Option Note
  | .noted note | .service (.noted note) => if note.level = .warn then some note else none
  | _ => none

def scheduled (log : List (SourceDiagnostics.Event (Event ε δ))) : List Project :=
  log.filterMap scheduled?

def built (log : List (SourceDiagnostics.Event (Event ε δ))) :
    List (Project × Outcome BuildError Unit) :=
  log.filterMap built?

def warnings (log : List (SourceDiagnostics.Event (Event ε δ))) : List Note :=
  log.filterMap warning?

def complaint? : Project × Outcome BuildError Unit → Option Note
  | (_, .failed error) => some (.queuedBuildFailed error)
  | _ => none

structure Unrelated (event : SourceDiagnostics.Event (Event ε δ)) : Prop where
  unscheduled : scheduled? event = none
  unbuilt : built? event = none
  unwarned : warning? event = none
  unanswered : ∀ project outcome, event ≠ .answered (.schedule project) outcome

/-- The accounts balance: no build is lost, made up or done twice, every call to schedule one was
answered at once, and there is one warning for each build that failed. -/
structure Accounts (state : Workshop ρ β) (log : List (SourceDiagnostics.Event (Event ε δ)))
    (final : Workshop ρ β) : Prop where
  balanced : ((built log).map Prod.fst ++ final.queue).Perm (state.queue ++ scheduled log)
  accepted : ∀ project outcome, .answered (.schedule project) outcome ∈ log →
    outcome = .returned ()
  warned : warnings log = (built log).filterMap complaint?

namespace Accounts

theorem sequential : Sequential
    (Accounts : Workshop ρ β → List (SourceDiagnostics.Event (Event ε δ)) → Workshop ρ β → Prop) where
  refl state :=
    { balanced := by simp [built, scheduled]
      accepted := fun _ _ member => absurd member List.not_mem_nil
      warned := rfl }
  trans {first between last log later} front back :=
    { balanced := by
        have middle := back.balanced.append_left ((built log).map Prod.fst)
        have start := front.balanced.append_right (scheduled later)
        simp only [built, scheduled, List.filterMap_append, List.map_append, List.append_assoc]
          at middle start ⊢
        exact middle.trans start
      accepted := fun project outcome member =>
        (List.mem_append.mp member).elim (front.accepted project outcome)
          (back.accepted project outcome)
      warned := by
        have front := front.warned
        have back := back.warned
        simp only [warnings, built, List.filterMap_append] at front back ⊢
        rw [front, back] }

theorem of_unrelated {state final : Workshop ρ β}
    {log : List (SourceDiagnostics.Event (Event ε δ))} (same : final.queue = state.queue)
    (unrelated : ∀ event ∈ log, Unrelated event) : Accounts state log final := by
  have unscheduled : scheduled log = [] :=
    List.filterMap_eq_nil_iff.mpr fun event member => (unrelated event member).unscheduled
  have unbuilt : built log = [] :=
    List.filterMap_eq_nil_iff.mpr fun event member => (unrelated event member).unbuilt
  have unwarned : warnings log = [] :=
    List.filterMap_eq_nil_iff.mpr fun event member => (unrelated event member).unwarned
  constructor
  · rw [unscheduled, unbuilt, same, List.append_nil]
    exact List.Perm.refl _
  · exact fun project outcome member => absurd rfl ((unrelated _ member).unanswered project outcome)
  · rw [unbuilt, unwarned, List.filterMap_nil]

theorem of_unrelated_event {state : Workshop ρ β} {event : SourceDiagnostics.Event (Event ε δ)}
    (unrelated : Unrelated event) : Accounts state [event] state :=
  of_unrelated rfl (List.forall_mem_singleton.mpr unrelated)

end Accounts

/-! The pool. -/

def Pooled (state : Workshop ρ β) (log : List (Event ε δ)) (final : Workshop ρ β) : Prop :=
  Accounts state (log.map .service) final

theorem pooled_sequential :
    Sequential (Pooled : Workshop ρ β → List (Event ε δ) → Workshop ρ β → Prop) where
  refl state := Accounts.sequential.refl state
  trans front back := by
    rw [Pooled, List.map_append]
    exact Accounts.sequential.trans front back

theorem finish_of_missing (builder : Project → Action δ β BuildError Unit) {number : Nat}
    {state : Workshop ρ β} (missing : state.queue[number]? = none) :
    (finish builder number : Action (Event ε δ) (Workshop ρ β) φ Unit) state =
      ⟨.returned (), state, []⟩ := by
  have got : (queueSlot.get state)[number]? = none := missing
  simp [finish, Action.ended, BuildQueue.finish, Action.bind_apply, got]

/-- Doing a queued build takes it off the queue, does it once, and warns just if it fails. -/
theorem finish_of_queued (builder : Project → Action δ β BuildError Unit) {number : Nat}
    {state : Workshop ρ β} {project : Project} (queued : state.queue[number]? = some project) :
    (finish builder number : Action (Event ε δ) (Workshop ρ β) φ Unit) state =
      let ran := builder project state.builder
      ⟨.returned (), { state with builder := ran.state, queue := state.queue.eraseIdx number },
        ran.log.map .builder ++ .built project ran.outcome ::
          (complaint? (project, ran.outcome)).toList.map .noted⟩ := by
  have got : (queueSlot.get state)[number]? = some project := queued
  have taken : queueSlot.update (List.eraseIdx · number) state =
      { state with queue := state.queue.eraseIdx number } := rfl
  simp only [finish, Action.ended, BuildQueue.finish, Action.bind_apply, Action.gets_apply, got,
    Action.modify_apply, Action.attempt_apply, build, taken]
  rcases builder project state.builder with ⟨⟨⟩ | error | message, final, log⟩ <;>
    simp [Outcome.attempt, complaint?, Action.note, NoteLog.note]

theorem pooled_of_built {state : Workshop ρ β} {number : Nat} {project : Project}
    (queued : state.queue[number]? = some project) (outcome : Outcome BuildError Unit) :
    Pooled state ((.built project outcome : Event ε δ) ::
        (complaint? (project, outcome)).toList.map .noted)
      { state with queue := state.queue.eraseIdx number } := by
  rcases List.getElem?_eq_some_iff.mp queued with ⟨within, rfl⟩
  constructor
  · have taken : (state.queue[number] :: state.queue.eraseIdx number).Perm (state.queue ++ []) := by
      rw [List.append_nil]
      exact List.getElem_cons_eraseIdx_perm within
    cases outcome <;> exact taken
  · intro other outcome' member
    cases outcome <;> simp [complaint?] at member
  · cases outcome <;> rfl

theorem finish_accounts (builder : Project → Action δ β BuildError Unit) (number : Nat) :
    (finish builder number : Action (Event ε δ) (Workshop ρ β) φ Unit).Traces Pooled := by
  intro state
  cases queued : state.queue[number]? with
  | none =>
      rw [finish_of_missing builder queued]
      exact pooled_sequential.refl state
  | some project =>
      rw [finish_of_queued builder queued]
      dsimp only
      generalize builder project state.builder = ran
      have building : Pooled state (ran.log.map .builder : List (Event ε δ))
          { state with builder := ran.state } := by
        refine .of_unrelated rfl fun event member => ?_
        rw [List.map_map] at member
        rcases List.mem_map.mp member with ⟨inner, _, rfl⟩
        exact ⟨rfl, rfl, rfl, nofun⟩
      have still : ({ state with builder := ran.state } : Workshop ρ β).queue[number]? =
          some project := queued
      exact pooled_sequential.trans building (pooled_of_built still ran.outcome)

theorem work_accounts (builder : Project → Action δ β BuildError Unit) (turn : List Nat) :
    (work builder turn : Action (Event ε δ) (Workshop ρ β) φ Unit).Traces Pooled :=
  Action.Traces.forM pooled_sequential (finish_accounts builder) turn

theorem takeTurn_accounts (builder : Project → Action δ β BuildError Unit) :
    (takeTurn builder : Action (Event ε δ) (Workshop ρ β) φ Unit).Traces Pooled := by
  apply Action.Traces.bind pooled_sequential
  · exact fun state => pooled_sequential.refl state
  intro turn
  apply Action.Traces.bind pooled_sequential
  · exact fun state => .of_unrelated rfl (List.forall_mem_nil _)
  · exact fun _ => work_accounts builder turn

def Unnoticed (action : Action (Event ε δ) (Workshop ρ β) φ PUnit) : Prop :=
  ∀ state, ∃ final log, action state = ⟨.returned .unit, final, log⟩ ∧
    final.workspace = state.workspace

theorem finish_unnoticed (builder : Project → Action δ β BuildError Unit) (number : Nat) :
    Unnoticed (finish builder number : Action (Event ε δ) (Workshop ρ β) φ Unit) := by
  intro state
  cases queued : state.queue[number]? with
  | none => exact ⟨_, _, finish_of_missing builder queued, rfl⟩
  | some project => exact ⟨_, _, finish_of_queued builder queued, rfl⟩

theorem work_unnoticed (builder : Project → Action δ β BuildError Unit) (turn : List Nat) :
    Unnoticed (work builder turn : Action (Event ε δ) (Workshop ρ β) φ Unit) := by
  induction turn with
  | nil => exact fun state => ⟨state, [], rfl, rfl⟩
  | cons number rest induction =>
      intro state
      rcases finish_unnoticed (ε := ε) (φ := φ) builder number state with
        ⟨between, log, finished, same⟩
      rcases induction between with ⟨final, later, worked, same'⟩
      refine ⟨final, log ++ later, ?_, same'.trans same⟩
      change (finish builder number >>= fun _ => work builder rest) state = _
      rw [Action.bind_apply_of_returned finished, worked]

theorem takeTurn_unnoticed (builder : Project → Action δ β BuildError Unit) :
    Unnoticed (takeTurn builder : Action (Event ε δ) (Workshop ρ β) φ Unit) := by
  intro state
  exact work_unnoticed builder (state.turns.headD []) { state with turns := state.turns.tail }

/-! The services. -/

section Services

variable (others : Services ε ρ) (builder : Project → Action δ β BuildError Unit)

theorem schedule_apply (project : Project) (state : Workshop ρ β) :
    (BuildQueue.schedule queueSlot project : Action (Event ε δ) (Workshop ρ β) BuildError Unit)
        state =
      ⟨.returned (), { state with queue := state.queue ++ [project] },
        [.noted (.buildQueued project.name)]⟩ :=
  rfl

theorem services_apply (call : Call) (state : Workshop ρ β) :
    ∃ between log, Pooled state log between ∧ between.workspace = state.workspace ∧
      services others builder call state =
        let ran := Services.withBuilds
          (fun call => ((others call).within workspaceSlot).writing .workspace)
          (BuildQueue.schedule queueSlot) call between
        ⟨ran.outcome, ran.state, log ++ ran.log⟩ := by
  rcases takeTurn_unnoticed (φ := call.Failure) builder state with ⟨between, log, taken, same⟩
  have pooled := takeTurn_accounts (ε := ε) (φ := call.Failure) builder state
  rw [taken] at pooled
  exact ⟨between, log, pooled, same, Action.bind_apply_of_returned taken⟩

theorem unrelated_asked {call : Call} (other : call.isSchedule = false) :
    Unrelated (.asked call : SourceDiagnostics.Event (Event ε δ)) := by
  cases call with
  | schedule project => cases other
  | _ => exact ⟨rfl, rfl, rfl, nofun⟩

theorem unrelated_answered {call : Call} (other : call.isSchedule = false)
    (outcome : Outcome call.Failure call.Reply) :
    Unrelated (.answered call outcome : SourceDiagnostics.Event (Event ε δ)) := by
  cases call with
  | schedule project => cases other
  | _ => exact ⟨rfl, rfl, rfl, nofun⟩

theorem unrelated_of_workspace {log : List ε} {event : SourceDiagnostics.Event (Event ε δ)}
    (member : event ∈ (log.map .workspace).map .service) : Unrelated event := by
  rw [List.map_map] at member
  rcases List.mem_map.mp member with ⟨inner, _, rfl⟩
  exact ⟨rfl, rfl, rfl, nofun⟩

theorem ask_accounts_of_not_schedule {call : Call} (other : call.isSchedule = false) :
    ((services others builder).ask call).Traces Accounts := by
  intro state
  rcases services_apply others builder call state with ⟨between, log, pooled, _, called⟩
  have elsewhere : Services.withBuilds
      (fun call => ((others call).within workspaceSlot).writing .workspace)
      (BuildQueue.schedule queueSlot) call =
        (((others call).within workspaceSlot).writing .workspace :
          Action (Event ε δ) (Workshop ρ β) call.Failure call.Reply) := by
    cases call with
    | schedule project => cases other
    | _ => rfl
  rw [elsewhere] at called
  rw [Services.ask_apply, called]
  dsimp only [Action.writing_apply, Action.within_apply]
  generalize others call (workspaceSlot.get between) = ran
  have asked : Accounts state [(.asked call : SourceDiagnostics.Event (Event ε δ))] state :=
    .of_unrelated_event (unrelated_asked other)
  have own : Accounts between ((ran.log.map (Event.workspace : ε → Event ε δ)).map .service)
      (workspaceSlot.set ran.state between) :=
    .of_unrelated rfl fun _ => unrelated_of_workspace
  have answered : Accounts (workspaceSlot.set ran.state between)
      [(.answered call ran.outcome : SourceDiagnostics.Event (Event ε δ))] _ :=
    .of_unrelated_event (unrelated_answered other ran.outcome)
  rw [List.map_append, List.cons_append, List.append_assoc]
  exact Accounts.sequential.trans asked
    (Accounts.sequential.trans pooled (Accounts.sequential.trans own answered))

theorem scheduled_service (log : List (Event ε δ)) : scheduled (log.map .service) = [] := by
  rw [scheduled, List.filterMap_map]
  exact List.filterMap_eq_nil_iff.mpr fun _ _ => rfl

theorem accounts_of_scheduled {state between : Workshop ρ β} {log : List (Event ε δ)}
    (pooled : Pooled state log between) (project : Project) :
    Accounts state (.asked (.schedule project) :: (log.map .service ++
        [.service (.noted (.buildQueued project.name)),
          .answered (.schedule project) (.returned ())]))
      { between with queue := between.queue ++ [project] } := by
  -- The call stands in the log before the turn of the pool, but its project joins the queue after
  -- it, so the accounts of the two cannot just be put one after the other.
  have balanced := pooled.balanced.append_right [project]
  rw [scheduled_service] at balanced
  constructor
  · have unscheduled := scheduled_service log
    simp only [built, scheduled, List.filterMap_cons, List.filterMap_append, built?, scheduled?,
      List.filterMap_nil, List.append_nil, List.append_assoc] at balanced unscheduled ⊢
    rw [unscheduled]
    exact balanced
  · intro other outcome member
    rcases List.mem_cons.mp member with asked | later
    · cases asked
    rcases List.mem_append.mp later with before | last
    · exact pooled.accepted other outcome before
    · rcases List.mem_cons.mp last with noted | answered
      · cases noted
      · cases List.mem_singleton.mp answered
        rfl
  · have warned := pooled.warned
    simp only [built, warnings, List.filterMap_cons, List.filterMap_append, built?, warning?,
      List.filterMap_nil, List.append_nil, Note.level, reduceCtorEq, if_false] at warned ⊢
    exact warned

theorem services_schedule_apply (project : Project) (state : Workshop ρ β) :
    ∃ between log, Pooled state log between ∧ between.workspace = state.workspace ∧
      services others builder (.schedule project) state =
        ⟨.returned (), { between with queue := between.queue ++ [project] },
          log ++ [.noted (.buildQueued project.name)]⟩ := by
  rcases services_apply others builder (.schedule project) state with
    ⟨between, log, pooled, same, called⟩
  exact ⟨between, log, pooled, same, called⟩

theorem ask_schedule_accounts (project : Project) :
    ((services others builder).ask (.schedule project)).Traces Accounts := by
  intro state
  rcases services_schedule_apply others builder project state with ⟨between, log, pooled, _, called⟩
  rw [Services.ask_apply, called, List.map_append, List.cons_append, List.append_assoc]
  exact accounts_of_scheduled pooled project

theorem ask_accounts (call : Call) : ((services others builder).ask call).Traces Accounts := by
  cases other : call.isSchedule with
  | false => exact ask_accounts_of_not_schedule others builder other
  | true =>
      cases call with
      | schedule project => exact ask_schedule_accounts others builder project
      | _ => cases other

/-! Requests, and whatever else can happen. -/

theorem accounts_quiet :
    Quiet (Accounts : Workshop ρ β → List (SourceDiagnostics.Event (Event ε δ)) → _ → Prop) := by
  intro note calm state
  exact .of_unrelated_event ⟨rfl, rfl, if_neg calm, nofun⟩

theorem scheduleBuild_accounts (config : Config) (project : Project) :
    (Validator.scheduleBuild ⟨services others builder, config⟩ project :
      Action _ _ φ Unit).Traces Accounts := by
  intro state
  have asked := ask_schedule_accounts others builder project state
  rcases services_schedule_apply others builder project state with ⟨between, log, _, _, called⟩
  rw [Validator.scheduleBuild_apply]
  rw [Services.ask_apply, called] at asked
  dsimp only
  rw [called]
  exact Accounts.sequential.trans asked (accounts_quiet (.buildScheduled project.name) nofun _)

theorem run_accounts (config : Config) (request : Request) :
    (Validator.run ⟨services others builder, config⟩ request).Traces Accounts :=
  Validator.run_traces_of_rebuilt Accounts.sequential accounts_quiet
    (fun call _ => ask_accounts others builder call)
    (Services.problems_traces_of_quiet Accounts.sequential accounts_quiet
      fun call _ => ask_accounts others builder call)
    (scheduleBuild_accounts others builder config) request

theorem perform_accounts (happening : Happening) :
    (happening.perform others builder).Traces Accounts := by
  have returning {α : Type} (results : List α) :
      (pure results : Action (SourceDiagnostics.Event (Event ε δ)) (Workshop ρ β) Empty _).Traces
        Accounts := Action.Traces.pure Accounts.sequential results
  cases happening with
  | request config wanted =>
      have run := run_accounts others builder config wanted
      exact Action.Traces.bind Accounts.sequential run fun _ => returning _
  | schedule project =>
      have asked := ask_schedule_accounts others builder project
      exact Action.Traces.bind Accounts.sequential asked fun _ => returning _
  | turn numbers =>
      have worked : ((work builder numbers : Action (Event ε δ) (Workshop ρ β) Empty Unit).writing
          .service).Traces Accounts := work_accounts builder numbers
      exact Action.Traces.bind Accounts.sequential worked fun _ => returning _

theorem performAll_accounts (happenings : List Happening) :
    (performAll others builder happenings).Traces Accounts := by
  induction happenings with
  | nil => exact Action.Traces.pure Accounts.sequential []
  | cons happening rest induction =>
      apply Action.Traces.bind Accounts.sequential (perform_accounts others builder happening)
      intro results
      apply Action.Traces.bind Accounts.sequential induction
      exact fun _ => Action.Traces.pure Accounts.sequential _

end Services

end SourceDiagnostics.Workshop
