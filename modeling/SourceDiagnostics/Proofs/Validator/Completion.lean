import SourceDiagnostics.Proofs.Validator.Stages

/-!
Units that are diagnosed. Where the services answer one call after the other in the way that a
unit's stages have it, its diagnosis goes along with them and comes to the diagnostics
(`Validator.diagnose_follows`). So whether a diagnosis succeeds can be said of the services alone,
without a look at what it logs.
-/

namespace SourceDiagnostics

/-- Wherever the services give these answers one after the other, the action returns the value, and
leaves the state that the answers lead to. -/
def Action.Follows {ε σ φ α : Type} (services : Services ε σ) (answers : List Answered) (value : α)
    (action : Action (Event ε) σ φ α) : Prop :=
  ∀ first last, services.Trail first answers last →
    (action first).outcome = .returned value ∧ (action first).state = last

namespace Action.Follows

variable {ε σ φ ψ α β : Type} {services : Services ε σ} {answers later : List Answered}
  {value : α} {result : β}

theorem pure : (Pure.pure value : Action (Event ε) σ φ α).Follows services [] value := by
  intro first last trail
  cases trail with
  | nil state => exact ⟨rfl, rfl⟩

theorem ask (call : Call) {reply : call.Reply} :
    (services.ask call).Follows services [⟨call, .returned reply⟩] reply := by
  intro first last trail
  rcases trail.head with ⟨returned, rest⟩
  cases rest with
  | nil state => exact ⟨returned.symm, rfl⟩

theorem bind {action : Action (Event ε) σ φ α} {next : α → Action (Event ε) σ φ β}
    (front : action.Follows services answers value)
    (back : (next value).Follows services later result) :
    (action >>= next).Follows services (answers ++ later) result := by
  intro first last trail
  rcases trail.split with ⟨between, before, after⟩
  rcases ran : action first with ⟨outcome, reached, log⟩
  have here := front first between before
  rw [ran] at here
  rcases here with ⟨rfl, rfl⟩
  rw [bind_apply_of_returned ran]
  exact back reached last after

theorem note_bind {note : Note} {next : Unit → Action (Event ε) σ φ β}
    (back : (next ()).Follows services answers result) :
    (Action.note note >>= next).Follows services answers result :=
  fun first last trail => back first last trail

theorem mapError {convert : φ → ψ} {action : Action (Event ε) σ φ α}
    (follows : action.Follows services answers value) :
    (action.mapError convert).Follows services answers value := by
  intro first last trail
  rcases follows first last trail with ⟨returned, reached⟩
  rw [mapError_apply, returned]
  exact ⟨rfl, reached⟩

theorem andFinally {action : Action (Event ε) σ φ α} {cleanup : Action (Event ε) σ Empty Unit}
    (body : action.Follows services answers value) (cleaned : cleanup.Follows services later ()) :
    (action.andFinally cleanup).Follows services (answers ++ later) value := by
  intro first last trail
  rcases trail.split with ⟨between, before, after⟩
  rcases body first between before with ⟨returned, rfl⟩
  rcases cleaned _ last after with ⟨returned', reached⟩
  simp only [Action.andFinally, returned, returned']
  exact ⟨trivial, reached⟩

end Action.Follows

namespace Services

variable {ε σ : Type}

theorem problems_follows (services : Services ε σ) (scope : List Project) (unit : SourceUnit)
    (style : TreeStyle) (tree : SyntaxTree) :
    (services.problems scope unit style).Follows services (parsing scope unit style tree)
      tree.problems := by
  have built : (services.ask (.buildTree unit style) >>= fun tree => do
      Action.note (.problemsCollected tree.problems.length unit.path)
      return tree.problems).Follows services [⟨.buildTree unit style, .returned tree⟩]
        tree.problems :=
    .bind (.ask (.buildTree unit style)) (.note_bind .pure)
  exact .bind (.ask (.acquire scope)) (built.andFinally (.ask .release))

theorem markers_follows (services : Services ε σ) (resource : Resource) (markers : List Marker) :
    (services.markers resource).Follows services (checking resource markers) markers := by
  refine .bind (.ask (.check resource .onDemand)) (.bind (.ask (.findMarkers resource .zero)) ?_)
  exact .note_bind .pure

end Services

namespace Validator

variable {ε σ : Type}

theorem gather_follows (validator : Validator ε σ) (request : Request) (unit : SourceUnit)
    (reports : Reports) :
    (validator.gather request unit).Follows validator.services
      (reports.stages validator.config unit) reports.found := by
  rcases validator with ⟨services, config⟩
  rcases reports with ⟨scope, tree, markers, resolver⟩
  have parsed := services.problems_follows scope unit config.treeStyle tree
  have checked := services.markers_follows unit.resource markers
  apply Action.Follows.bind (.mapError (.ask .projects))
  apply Action.Follows.bind parsed.mapError
  apply Action.Follows.bind checked.mapError
  exact .bind (.mapError (.ask (.load unit.location))) .pure

theorem diagnose_follows (validator : Validator ε σ) (request : Request) (unit : SourceUnit)
    (reports : Reports) :
    (validator.diagnose request unit).Follows validator.services
      (reports.stages validator.config unit) (reports.diagnostics validator.config unit) := by
  rw [diagnose_eq, ← List.append_nil (reports.stages validator.config unit)]
  apply Action.Follows.bind (validator.gather_follows request unit reports)
  intro first last trail
  cases trail with
  | nil state =>
      rw [Found.place_apply]
      exact ⟨rfl, rfl⟩

end Validator

end SourceDiagnostics
