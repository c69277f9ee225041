import SourceDiagnostics.Proofs.Validator.Alike
import SourceDiagnostics.Proofs.Workshop.Accounts

/-!
Builds in the background. A workshop answers every call as its workspace would with a service for
builds that accepts everything and does nothing. So requests have the results in a workshop that
they would have in the workspace alone, whatever the builder does, whatever else is scheduled, and
whenever the pool takes its turns. Meanwhile the accounts balance: once nothing is queued any more,
what was scheduled has been built, and there is a warning for each build that failed.
-/

namespace SourceDiagnostics.Workshop

variable {ε δ ρ β : Type}

/-- The services of a workspace where every build can be scheduled, and none is done. -/
def alone (others : Services ε ρ) : Services ε ρ :=
  others.withBuilds fun _ => pure ()

variable (others : Services ε ρ) (builder : Project → Action δ β BuildError Unit)

theorem services_answer (call : Call) (state : Workshop ρ β) :
    (services others builder call state).outcome = (alone others call state.workspace).outcome ∧
      (services others builder call state).state.workspace =
        (alone others call state.workspace).state := by
  rcases services_apply others builder call state with ⟨between, log, _, same, called⟩
  rw [called, ← same]
  cases call <;> exact ⟨rfl, rfl⟩

def Within (workshop : Workshop ρ β) (workspace : ρ) : Prop :=
  workshop.workspace = workspace

theorem ask_pairs (call : Call) : Action.Pairs Within Within
    ((services others builder).ask call) ((alone others).ask call) := by
  intro state workspace within
  cases within
  exact services_answer others builder call state

theorem services_alike :
    (services others builder).Alike (alone others) Within fun _ => Within where
  alike_of_told _ _ _ within := within
  asked call _ := ask_pairs others builder call
  asked_told _ call _ := ask_pairs others builder call
  announced path := ask_pairs others builder (.invalidate path)
  loaded path := ask_pairs others builder (.load path)

/-! What requests come to in a workshop, against its workspace alone. -/

def Happening.request? : Happening → Option (Config × Request)
  | .request config wanted => some (config, wanted)
  | _ => none

def resultsAlone : List (Config × Request) → ρ → List Result
  | [], _ => []
  | (config, wanted) :: rest, workspace =>
      let ran := Validator.run ⟨alone others, config⟩ wanted workspace
      ran.outcome :: resultsAlone rest ran.state

theorem perform_request (config : Config) (wanted : Request) (state : Workshop ρ β) :
    let ran := Validator.run ⟨alone others, config⟩ wanted state.workspace
    ∃ final log, (Happening.request config wanted).perform others builder state =
      ⟨.returned [ran.outcome], final, log⟩ ∧ final.workspace = ran.state := by
  intro ran
  rcases Validator.run_pairs (services_alike others builder) config wanted state state.workspace
    rfl with ⟨outcomes, left⟩
  let ran' := Validator.run ⟨services others builder, config⟩ wanted state
  refine ⟨ran'.state, ran'.log ++ [], ?_, left⟩
  rw [← outcomes]
  rfl

theorem perform_of_not_request {happening : Happening} (other : happening.request? = none)
    (state : Workshop ρ β) : ∃ final log, happening.perform others builder state =
      ⟨.returned [], final, log⟩ ∧ final.workspace = state.workspace := by
  cases happening with
  | request config wanted => cases other
  | schedule project =>
      rcases services_schedule_apply others builder project state with
        ⟨between, log, _, same, called⟩
      let asked := (services others builder).ask (.schedule project) state
      refine ⟨asked.state, asked.log ++ [], rfl, ?_⟩
      change (services others builder (.schedule project) state).state.workspace = _
      rw [called]
      exact same
  | turn numbers =>
      rcases work_unnoticed (ε := ε) (φ := Empty) builder numbers state with
        ⟨final, log, worked, same⟩
      refine ⟨final, log.map .service ++ [], ?_, same⟩
      rw [Happening.perform, Action.bind_apply, Action.writing_apply, worked]
      rfl

theorem performAll_cons_outcome {happening : Happening} {rest : List Happening}
    {state between : Workshop ρ β} {log : List (SourceDiagnostics.Event (Event ε δ))}
    {results later : List Result}
    (performed : happening.perform others builder state = ⟨.returned results, between, log⟩)
    (after : (performAll others builder rest between).outcome = .returned later) :
    (performAll others builder (happening :: rest) state).outcome =
      .returned (results ++ later) := by
  rw [performAll, Action.bind_apply_of_returned performed, Action.bind_apply]
  rcases ran : performAll others builder rest between with ⟨outcome, final, log'⟩
  rw [ran] at after
  cases after
  rfl

theorem performAll_results (happenings : List Happening) (state : Workshop ρ β) :
    (performAll others builder happenings state).outcome =
      .returned (resultsAlone others (happenings.filterMap Happening.request?) state.workspace) := by
  induction happenings generalizing state with
  | nil => rfl
  | cons happening rest induction =>
      cases wanted? : happening.request? with
      | some request =>
          cases happening with
          | request config wanted =>
              cases wanted?
              rcases perform_request others builder config wanted state with
                ⟨between, log, performed, left⟩
              have later := induction between
              rw [left] at later
              exact performAll_cons_outcome others builder performed later
          | _ => cases wanted?
      | none =>
          rcases perform_of_not_request others builder wanted? state with
            ⟨between, log, performed, same⟩
          rw [List.filterMap_cons_none wanted?, ← same]
          exact performAll_cons_outcome others builder performed (induction between)

def failed : Project × Outcome BuildError Unit → Bool
  | (_, .failed _) => true
  | _ => false

theorem length_complaints (builds : List (Project × Outcome BuildError Unit)) :
    (builds.filterMap complaint?).length = builds.countP failed := by
  rw [List.length_filterMap_eq_countP]
  apply List.countP_congr
  intro build _
  rcases build with ⟨project, _ | error | message⟩ <;> exact Iff.rfl

/-- Whatever is requested or scheduled in a workshop, and whenever and in whichever order its pool
does the queued builds: scheduling a build just queues it, and succeeds. A build that the pool does
is taken off the queue, done once, and warned of just if it fails. None is lost, made up or done
twice, so once the queue is empty what was built is what was scheduled. And requests have the
results that they would have without any builds. -/
theorem builds_in_background (start : Workshop ρ β) (happenings : List Happening) :
    let ran := performAll others builder happenings start
    (∀ project (state : Workshop ρ β),
      (BuildQueue.schedule queueSlot project : Action (Event ε δ) _ BuildError Unit) state =
        ⟨.returned (), { state with queue := state.queue ++ [project] },
          [.noted (.buildQueued project.name)]⟩) ∧
      (∀ project outcome, .answered (.schedule project) outcome ∈ ran.log →
        outcome = .returned ()) ∧
      (∀ number project (state : Workshop ρ β), state.queue[number]? = some project →
        (finish builder number : Action (Event ε δ) _ Empty Unit) state =
          let done := builder project state.builder
          ⟨.returned (), { state with builder := done.state, queue := state.queue.eraseIdx number },
            done.log.map .builder ++ .built project done.outcome ::
              (complaint? (project, done.outcome)).toList.map .noted⟩) ∧
      ((built ran.log).map Prod.fst ++ ran.state.queue).Perm (start.queue ++ scheduled ran.log) ∧
      (start.queue = [] → ran.state.queue = [] →
        ((built ran.log).map Prod.fst).Perm (scheduled ran.log)) ∧
      warnings ran.log = (built ran.log).filterMap complaint? ∧
      (warnings ran.log).length = (built ran.log).countP failed ∧
      ran.outcome =
        .returned (resultsAlone others (happenings.filterMap Happening.request?)
          start.workspace) := by
  intro ran
  have accounts : Accounts start ran.log ran.state :=
    performAll_accounts others builder happenings start
  refine ⟨schedule_apply, accounts.accepted, fun _ _ _ => finish_of_queued builder,
    accounts.balanced, ?_, accounts.warned, ?_, performAll_results others builder happenings start⟩
  · intro idle settled
    have balanced := accounts.balanced
    rw [idle, settled, List.append_nil] at balanced
    exact balanced
  · rw [accounts.warned, length_complaints]

def tidyServices (project : Project) : Services Empty Unit
  | .resolve _ => pure (some project)
  | .projects => pure [project]
  | .findUnit project path => pure (.inProject project path)
  | .buildTree _ _ => pure ⟨[], []⟩
  | .findMarkers _ _ => pure []
  | .load _ => pure fun _ => ⟨1, 1⟩
  | .refresh _ _ | .acquire _ | .release | .check _ _ | .invalidate _ | .schedule _ => pure ()

/-- A request schedules one build, and somebody else another one, which is done first and fails. -/
theorem builds_in_background_of_two :
    let demo : Project := ⟨"demo", .ofString "/work/demo"⟩
    let tool : Project := ⟨"tool", .ofString "/work/tool"⟩
    let error : BuildError := .failed "tool" "linker exited with 1"
    let builder : Project → Action Empty Unit BuildError Unit := fun project =>
      if project = tool then .fail error else pure ()
    let request : Request :=
      { project := "demo", file := .ofString "a.c", validate := true, build := true }
    let start : Workshop Unit Unit := ⟨(), (), [], []⟩
    let happenings : List Happening :=
      [.request default request, .schedule tool, .turn [1, 0]]
    let ran := performAll (tidyServices demo) builder happenings start
    start.queue = [] ∧ ran.state.queue = [] ∧
      scheduled ran.log = [demo, tool] ∧
      built ran.log = [(tool, .failed error), (demo, .returned ())] ∧
      ((built ran.log).map Prod.fst).Perm (scheduled ran.log) ∧
      warnings ran.log = [.queuedBuildFailed error] ∧
      ran.outcome = .returned [.returned (some [])] := by
  intro demo tool error builder request start happenings ran
  have settled : ran.state.queue = [] := by decide +kernel
  have balanced := (builds_in_background (tidyServices demo) builder start happenings).2.2.2.2.1
  exact ⟨rfl, settled, by decide +kernel, by decide +kernel, balanced rfl settled,
    by decide +kernel, by decide +kernel⟩

end SourceDiagnostics.Workshop
