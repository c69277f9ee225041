import SourceDiagnostics.BuildQueue
import SourceDiagnostics.Session

/-!
Workshops: a workspace whose builds are done in the background. Whoever schedules a build has only
put it into a queue; a pool does the queued builds whenever it likes, in any order, also while a
request is being answered. What the pool will do is part of the state: before each of the next calls
of a service it takes a turn, in which it does some of the builds that are queued by then.
-/

namespace SourceDiagnostics

def Action.ended {ε σ φ ψ α : Type} (action : Action ε σ φ α) : Action ε σ ψ (Outcome φ α) :=
  fun state =>
    let ran := action state
    ⟨.returned ran.outcome, ran.state, ran.log⟩

/-- A workspace, the state of what does the builds, the builds that are queued, and the next turns
of the pool. A turn gives the numbers that builds have in the queue at the time. -/
structure Workshop (ρ β : Type) where
  workspace : ρ
  builder : β
  queue : BuildQueue := []
  turns : List (List Nat) := []

namespace Workshop

inductive Event (ε δ : Type) where
  | workspace (event : ε)
  | builder (event : δ)
  | built (project : Project) (outcome : Outcome BuildError Unit)
  | noted (note : Note)

instance {ε δ : Type} : NoteLog (Event ε δ) := ⟨Event.noted⟩

variable {ε δ ρ β φ : Type}

def workspaceSlot : Slot (Workshop ρ β) ρ where
  get workshop := workshop.workspace
  set workspace workshop := { workshop with workspace }
  get_set _ _ := rfl
  set_get _ := rfl
  set_set _ _ _ := rfl

def queueSlot : Slot (Workshop ρ β) BuildQueue where
  get workshop := workshop.queue
  set queue workshop := { workshop with queue }
  get_set _ _ := rfl
  set_get _ := rfl
  set_set _ _ _ := rfl

def build (builder : Project → Action δ β BuildError Unit) (project : Project) :
    Action (Event ε δ) (Workshop ρ β) BuildError Unit := fun workshop =>
  let ran := builder project workshop.builder
  ⟨ran.outcome, { workshop with builder := ran.state },
    ran.log.map .builder ++ [.built project ran.outcome]⟩

/-- Does the queued build of some number, if there is one. Nobody waits for it, so it does not
matter to anybody how it ends. -/
def finish (builder : Project → Action δ β BuildError Unit) (number : Nat) :
    Action (Event ε δ) (Workshop ρ β) φ Unit := do
  let _ ← (BuildQueue.finish queueSlot (build builder) number :
    Action (Event ε δ) (Workshop ρ β) Empty Unit).ended

def work (builder : Project → Action δ β BuildError Unit) (turn : List Nat) :
    Action (Event ε δ) (Workshop ρ β) φ Unit :=
  turn.forM (finish builder)

def takeTurn (builder : Project → Action δ β BuildError Unit) :
    Action (Event ε δ) (Workshop ρ β) φ Unit := do
  let turn ← Action.gets fun workshop => workshop.turns.headD []
  Action.modify fun workshop => { workshop with turns := workshop.turns.tail }
  work builder turn

/-- The services of a workshop. The pool takes a turn before every call. -/
def services (others : Services ε ρ) (builder : Project → Action δ β BuildError Unit) :
    Services (Event ε δ) (Workshop ρ β) := fun call => do
  takeTurn builder
  Services.withBuilds (fun call => ((others call).within workspaceSlot).writing .workspace)
    (BuildQueue.schedule queueSlot) call

inductive Happening where
  | request (config : Config) (request : Request)
  | schedule (project : Project)
  | turn (numbers : List Nat)

abbrev Result :=
  Outcome RequestError (Option (List Diagnostic))

def Happening.perform (others : Services ε ρ) (builder : Project → Action δ β BuildError Unit) :
    Happening → Action (SourceDiagnostics.Event (Event ε δ)) (Workshop ρ β) Empty (List Result)
  | .request config wanted => do
      return [← (Validator.run ⟨services others builder, config⟩ wanted).ended]
  | .schedule project => do
      let _ ← ((services others builder).ask (.schedule project)).ended
      return []
  | .turn numbers => do
      (work builder numbers).writing .service
      return []

def performAll (others : Services ε ρ) (builder : Project → Action δ β BuildError Unit) :
    List Happening →
      Action (SourceDiagnostics.Event (Event ε δ)) (Workshop ρ β) Empty (List Result)
  | [] => return []
  | happening :: rest => do
      let results ← happening.perform others builder
      return results ++ (← performAll others builder rest)

end Workshop

end SourceDiagnostics
