import SourceDiagnostics.Action

/-!
Rules for two actions side by side. `Action.Pairs` says that from states that are related in one way
two actions come to the same end, and leave states that are related in another way. What they log
may differ, and so may their states.
-/

namespace SourceDiagnostics

namespace Action

variable {ε δ σ ρ φ ψ α β : Type} {before between after : σ → ρ → Prop}

/-- From states related one way, two actions end alike, in states related another way. -/
def Pairs (before after : σ → ρ → Prop) (left : Action ε σ φ α) (right : Action δ ρ φ α) : Prop :=
  ∀ state other, before state other → (left state).outcome = (right other).outcome ∧
    after (left state).state (right other).state

namespace Pairs

variable {left : Action ε σ φ α} {right : Action δ ρ φ α}

theorem pure (value : α) :
    Pairs before before (Pure.pure value : Action ε σ φ α) (Pure.pure value : Action δ ρ φ α) :=
  fun _ _ related => ⟨rfl, related⟩

theorem emit (event : ε) (other : δ) :
    Pairs before before (Action.emit event : Action ε σ φ Unit) (Action.emit other) :=
  fun _ _ related => ⟨rfl, related⟩

theorem weaken {stronger : σ → ρ → Prop} (pairs : Pairs before after left right)
    (weaker : ∀ state other, stronger state other → before state other) :
    Pairs stronger after left right :=
  fun state other related => pairs state other (weaker state other related)

theorem bind {next : α → Action ε σ φ β} {next' : α → Action δ ρ φ β}
    (first : Pairs before between left right)
    (later : ∀ value, Pairs between after (next value) (next' value))
    (ended : ∀ state other, between state other → after state other) :
    Pairs before after (left >>= next) (right >>= next') := by
  intro state other related
  have start := first state other related
  rw [bind_apply, bind_apply]
  rcases ran : left state with ⟨outcome, middle, log⟩
  rcases ran' : right other with ⟨outcome', middle', log'⟩
  rw [ran, ran'] at start
  obtain rfl : outcome = outcome' := start.left
  cases outcome with
  | returned value => exact later value middle middle' start.right
  | failed error => exact ⟨rfl, ended middle middle' start.right⟩
  | panicked message => exact ⟨rfl, ended middle middle' start.right⟩

theorem mapError (convert : φ → ψ) (pairs : Pairs before after left right) :
    Pairs before after (left.mapError convert) (right.mapError convert) := by
  intro state other related
  rcases pairs state other related with ⟨outcomes, states⟩
  exact ⟨congrArg (Outcome.mapError convert) outcomes, states⟩

theorem attempt (pairs : Pairs before after left right) :
    Pairs before after (left.attempt : Action ε σ ψ (Except φ α)) right.attempt := by
  intro state other related
  rcases pairs state other related with ⟨outcomes, states⟩
  exact ⟨congrArg Outcome.attempt outcomes, states⟩

theorem andFinally {cleanup : Action ε σ Empty Unit} {cleanup' : Action δ ρ Empty Unit}
    (body : Pairs before between left right) (cleaned : Pairs between after cleanup cleanup') :
    Pairs before after (left.andFinally cleanup) (right.andFinally cleanup') := by
  intro state other related
  rcases body state other related with ⟨outcomes, states⟩
  rcases cleaned _ _ states with ⟨outcomes', states'⟩
  refine ⟨?_, states'⟩
  rw [Action.andFinally, Action.andFinally]
  dsimp only
  rw [outcomes, outcomes']

theorem forM {action : β → Action ε σ φ PUnit} {action' : β → Action δ ρ φ PUnit}
    (pairs : ∀ value, Pairs before before (action value) (action' value)) (values : List β) :
    Pairs before before (values.forM action) (values.forM action') := by
  induction values with
  | nil => exact Pairs.pure PUnit.unit
  | cons head tail induction =>
      exact Pairs.bind (pairs head) (fun _ => induction) fun _ _ related => related

end Pairs

end Action

end SourceDiagnostics
