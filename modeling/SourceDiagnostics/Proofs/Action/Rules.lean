import SourceDiagnostics.Action

/-!
Rules for reasoning about actions piece by piece. `Traces` is about what an action does to the
state and the log, however it ends; it suits properties that a sequence has if its parts have
them. `Ends` is about the log and the end; its rule for sequencing follows the course of an action
from one call to the next.
-/

namespace SourceDiagnostics

def Outcome.ofExcept {φ α : Type} : Except φ α → Outcome φ α
  | .ok value => .returned value
  | .error error => .failed error

/-- A relation between a state, the events logged from there on, and the state reached, that holds
of a sequence if it holds of its parts. -/
structure Sequential {ε σ : Type} (relation : σ → List ε → σ → Prop) : Prop where
  refl : ∀ state, relation state [] state
  trans : ∀ {first between last log later}, relation first log between →
    relation between later last → relation first (log ++ later) last

namespace Action

variable {ε σ φ ψ α β : Type}

/-- However an action ends, the relation holds from the state it starts in, over its log, to the
state it leaves. -/
def Traces (relation : σ → List ε → σ → Prop) (action : Action ε σ φ α) : Prop :=
  ∀ state, relation state (action state).log (action state).state

namespace Traces

variable {relation : σ → List ε → σ → Prop}

theorem pure (sequential : Sequential relation) (value : α) :
    Traces relation (Pure.pure value : Action ε σ φ α) := fun state =>
  sequential.refl state

theorem emit {event : ε} (holds : ∀ state, relation state [event] state) :
    Traces relation (Action.emit event : Action ε σ φ Unit) :=
  holds

theorem bind (sequential : Sequential relation) {action : Action ε σ φ α}
    {next : α → Action ε σ φ β} (first : action.Traces relation)
    (later : ∀ value, (next value).Traces relation) : (action >>= next).Traces relation := by
  intro state
  have start := first state
  rw [bind_apply]
  rcases ran : action state with ⟨value | error | message, between, log⟩
  · rw [ran] at start
    exact sequential.trans start (later value between)
  · rwa [ran] at start
  · rwa [ran] at start

theorem mapError {convert : φ → ψ} {action : Action ε σ φ α} (traces : action.Traces relation) :
    (action.mapError convert).Traces relation :=
  traces

theorem attempt {action : Action ε σ φ α} (traces : action.Traces relation) :
    (action.attempt : Action ε σ ψ (Except φ α)).Traces relation :=
  traces

theorem andFinally (sequential : Sequential relation) {action : Action ε σ φ α}
    {cleanup : Action ε σ Empty Unit} (body : action.Traces relation)
    (cleaned : cleanup.Traces relation) : (action.andFinally cleanup).Traces relation :=
  fun state => sequential.trans (body state) (cleaned (action state).state)

theorem forM (sequential : Sequential relation) {action : β → Action ε σ φ PUnit}
    (traces : ∀ value, (action value).Traces relation) (values : List β) :
    (values.forM action).Traces relation := by
  induction values with
  | nil => exact Traces.pure sequential PUnit.unit
  | cons head tail induction => exact Traces.bind sequential (traces head) fun _ => induction

end Traces

def Ends (post : List ε → Outcome φ α → Prop) (action : Action ε σ φ α) : Prop :=
  ∀ state, post (action state).log (action state).outcome

namespace Ends

theorem bind {middle : List ε → Outcome φ α → Prop} {post : List ε → Outcome φ β → Prop}
    {action : Action ε σ φ α} {next : α → Action ε σ φ β} (first : action.Ends middle)
    (returned : ∀ log value, middle log (.returned value) →
      (next value).Ends fun later outcome => post (log ++ later) outcome)
    (failed : ∀ log error, middle log (.failed error) → post log (.failed error))
    (panicked : ∀ log message, middle log (.panicked message) → post log (.panicked message)) :
    (action >>= next).Ends post := by
  intro state
  have start := first state
  rw [bind_apply]
  rcases ran : action state with ⟨value | error | message, between, log⟩
  · rw [ran] at start
    exact returned log value start between
  · rw [ran] at start
    exact failed log error start
  · rw [ran] at start
    exact panicked log message start

theorem mapError {middle : List ε → Outcome φ α → Prop} {post : List ε → Outcome ψ α → Prop}
    {convert : φ → ψ} {action : Action ε σ φ α} (ends : action.Ends middle)
    (converted : ∀ log outcome, middle log outcome → post log (outcome.mapError convert)) :
    (action.mapError convert).Ends post := fun state =>
  converted _ _ (ends state)

end Ends

theorem mapError_id (action : Action ε σ φ α) : action.mapError id = action := by
  funext state
  rw [mapError_apply]
  rcases action state with ⟨value | error | message, final, log⟩ <;> rfl

end Action

end SourceDiagnostics
