/-!
Actions: what has effects on a state and writes a log on the way. An action ends in one of three
ways. It returns a value, it fails with an error that its caller can deal with, or it panics,
which nobody deals with and which skips everything but cleaning up. Whatever the end, the state
and the log up to it remain.
-/

namespace SourceDiagnostics

inductive Outcome (φ α : Type) where
  | returned (value : α)
  | failed (error : φ)
  | panicked (message : String)
  deriving DecidableEq, Repr

structure Ran (ε σ φ α : Type) where
  outcome : Outcome φ α
  state : σ
  log : List ε
  deriving DecidableEq, Repr

/-- An action that logs events `ε`, works on a state `σ`, fails with `φ` or returns `α`. -/
def Action (ε σ φ α : Type) :=
  σ → Ran ε σ φ α

namespace Outcome

variable {φ ψ α β : Type}

def mapError (convert : φ → ψ) : Outcome φ α → Outcome ψ α
  | returned value => .returned value
  | failed error => .failed (convert error)
  | panicked message => .panicked message

def attempt : Outcome φ α → Outcome ψ (Except φ α)
  | returned value => .returned (.ok value)
  | failed error => .returned (.error error)
  | panicked message => .panicked message

end Outcome

namespace Action

variable {ε σ φ ψ α β : Type}

/-! Sequencing. The second action starts from the state that the first one leaves, and only if the
first one returns. -/

protected def pure (value : α) : Action ε σ φ α := fun state =>
  ⟨.returned value, state, []⟩

protected def bind (action : Action ε σ φ α) (next : α → Action ε σ φ β) : Action ε σ φ β :=
  fun state =>
    match action state with
    | ⟨.returned value, between, log⟩ =>
        let later := next value between
        ⟨later.outcome, later.state, log ++ later.log⟩
    | ⟨.failed error, final, log⟩ => ⟨.failed error, final, log⟩
    | ⟨.panicked message, final, log⟩ => ⟨.panicked message, final, log⟩

instance : Monad (Action ε σ φ) where
  pure := Action.pure
  bind := Action.bind

@[simp] theorem pure_apply (value : α) (state : σ) :
    (pure value : Action ε σ φ α) state = ⟨.returned value, state, []⟩ := rfl

theorem bind_apply (action : Action ε σ φ α) (next : α → Action ε σ φ β) (state : σ) :
    (action >>= next) state =
      match action state with
      | ⟨.returned value, between, log⟩ =>
          ⟨(next value between).outcome, (next value between).state,
            log ++ (next value between).log⟩
      | ⟨.failed error, final, log⟩ => ⟨.failed error, final, log⟩
      | ⟨.panicked message, final, log⟩ => ⟨.panicked message, final, log⟩ := rfl

theorem bind_apply_of_returned {action : Action ε σ φ α} {next : α → Action ε σ φ β} {value : α}
    {state between : σ} {log : List ε} (ran : action state = ⟨.returned value, between, log⟩) :
    (action >>= next) state =
      ⟨(next value between).outcome, (next value between).state,
        log ++ (next value between).log⟩ := by
  rw [bind_apply, ran]

theorem bind_apply_of_failed {action : Action ε σ φ α} {next : α → Action ε σ φ β} {error : φ}
    {state final : σ} {log : List ε} (ran : action state = ⟨.failed error, final, log⟩) :
    (action >>= next) state = ⟨.failed error, final, log⟩ := by
  rw [bind_apply, ran]

theorem bind_apply_of_panicked {action : Action ε σ φ α} {next : α → Action ε σ φ β}
    {message : String} {state final : σ} {log : List ε}
    (ran : action state = ⟨.panicked message, final, log⟩) :
    (action >>= next) state = ⟨.panicked message, final, log⟩ := by
  rw [bind_apply, ran]

private theorem bind_pure (action : Action ε σ φ α) : action >>= pure = action := by
  funext state
  rw [bind_apply]
  rcases action state with ⟨value | error | message, final, log⟩ <;> simp [pure_apply]

private theorem pure_bind (value : α) (next : α → Action ε σ φ β) :
    (pure value : Action ε σ φ α) >>= next = next value := by
  funext state
  simp [bind_apply, pure_apply]

private theorem bind_assoc {γ : Type} (action : Action ε σ φ α) (next : α → Action ε σ φ β)
    (later : β → Action ε σ φ γ) :
    action >>= next >>= later = action >>= fun value => next value >>= later := by
  funext state
  simp only [bind_apply]
  rcases action state with ⟨value | error | message, between, log⟩ <;> simp only
  rcases next value between with ⟨value' | error | message, final, log'⟩ <;> simp

instance : LawfulMonad (Action ε σ φ) :=
  LawfulMonad.mk' _ (fun action => bind_pure action) (fun value next => pure_bind value next)
    (fun action next later => bind_assoc action next later)

/-! Ends, state and log. -/

def fail (error : φ) : Action ε σ φ α := fun state =>
  ⟨.failed error, state, []⟩

def panic (message : String) : Action ε σ φ α := fun state =>
  ⟨.panicked message, state, []⟩

def gets (view : σ → α) : Action ε σ φ α := fun state =>
  ⟨.returned (view state), state, []⟩

def modify (change : σ → σ) : Action ε σ φ Unit := fun state =>
  ⟨.returned (), change state, []⟩

def emit (event : ε) : Action ε σ φ Unit := fun state =>
  ⟨.returned (), state, [event]⟩

def ofExcept : Except φ α → Action ε σ φ α
  | .ok value => pure value
  | .error error => fail error

/-! Actions made from actions. -/

def mapError (convert : φ → ψ) (action : Action ε σ φ α) : Action ε σ ψ α := fun state =>
  let ran := action state
  ⟨ran.outcome.mapError convert, ran.state, ran.log⟩

instance : MonadLift (Action ε σ Empty) (Action ε σ φ) where
  monadLift := mapError Empty.elim

def attempt (action : Action ε σ φ α) : Action ε σ ψ (Except φ α) := fun state =>
  let ran := action state
  ⟨ran.outcome.attempt, ran.state, ran.log⟩

/-- The action followed by a cleanup, whichever way the action ends. Its end stays that of the
action, unless only the cleanup panics. -/
def andFinally (action : Action ε σ φ α) (cleanup : Action ε σ Empty Unit) : Action ε σ φ α :=
  fun state =>
    let body := action state
    let cleaned := cleanup body.state
    let outcome :=
      match body.outcome, cleaned.outcome with
      | .panicked message, _ => .panicked message
      | _, .panicked message => .panicked message
      | outcome, _ => outcome
    ⟨outcome, cleaned.state, body.log ++ cleaned.log⟩

/-! What each of these comes to from a given state. -/

@[simp] theorem map_apply (convert : α → β) (action : Action ε σ φ α) (state : σ) :
    (convert <$> action) state = (action >>= fun value => pure (convert value)) state := rfl

@[simp] theorem fail_apply (error : φ) (state : σ) :
    (fail error : Action ε σ φ α) state = ⟨.failed error, state, []⟩ := rfl

@[simp] theorem panic_apply (message : String) (state : σ) :
    (panic message : Action ε σ φ α) state = ⟨.panicked message, state, []⟩ := rfl

@[simp] theorem gets_apply (view : σ → α) (state : σ) :
    (gets view : Action ε σ φ α) state = ⟨.returned (view state), state, []⟩ := rfl

@[simp] theorem modify_apply (change : σ → σ) (state : σ) :
    (modify change : Action ε σ φ Unit) state = ⟨.returned (), change state, []⟩ := rfl

@[simp] theorem emit_apply (event : ε) (state : σ) :
    (emit event : Action ε σ φ Unit) state = ⟨.returned (), state, [event]⟩ := rfl

@[simp] theorem mapError_apply (convert : φ → ψ) (action : Action ε σ φ α) (state : σ) :
    action.mapError convert state =
      ⟨(action state).outcome.mapError convert, (action state).state, (action state).log⟩ := rfl

@[simp] theorem attempt_apply (action : Action ε σ φ α) (state : σ) :
    (action.attempt : Action ε σ ψ (Except φ α)) state =
      ⟨(action state).outcome.attempt, (action state).state, (action state).log⟩ := rfl

@[simp] theorem liftM_apply (action : Action ε σ Empty α) (state : σ) :
    (liftM action : Action ε σ φ α) state = action.mapError Empty.elim state := rfl

end Action

end SourceDiagnostics
