import SourceDiagnostics.Proofs.Action.Pairs
import SourceDiagnostics.Validator

/-!
Requests side by side. Two validators with the same configuration come to the same results if their
services do (`Services.Alike`). The services for tables need to agree only after the file was said
to have changed, since no request asks for a table before that.
-/

namespace SourceDiagnostics

def Call.concernsTables : Call → Bool
  | .load _ | .invalidate _ => true
  | _ => false

variable {ε δ σ ρ φ : Type}

/-- Services that answer alike. Their states are `alike` throughout, and `told path` from when a
file was said to have changed until its table is asked for. -/
structure Services.Alike (left : Services ε σ) (right : Services δ ρ) (alike : σ → ρ → Prop)
    (told : Path → σ → ρ → Prop) : Prop where
  alike_of_told : ∀ path state other, told path state other → alike state other
  asked : ∀ call, call.concernsTables = false →
    Action.Pairs alike alike (left.ask call) (right.ask call)
  asked_told : ∀ path call, call.concernsTables = false →
    Action.Pairs (told path) (told path) (left.ask call) (right.ask call)
  announced : ∀ path, Action.Pairs alike (told path) (left.ask (.invalidate path))
    (right.ask (.invalidate path))
  loaded : ∀ path, Action.Pairs (told path) alike (left.ask (.load path)) (right.ask (.load path))

section Parts

variable {left : Services ε σ} {right : Services δ ρ} {related : σ → ρ → Prop}
  (asked : ∀ call, call.concernsTables = false →
    Action.Pairs related related (left.ask call) (right.ask call))

include asked

theorem Services.problems_pairs (scope : List Project) (unit : SourceUnit) (style : TreeStyle) :
    Action.Pairs related related (left.problems scope unit style)
      (right.problems scope unit style) := by
  have same : ∀ state other, related state other → related state other := fun _ _ => id
  apply Action.Pairs.bind (asked (.acquire scope) rfl) _ same
  intro _
  apply Action.Pairs.andFinally _ (asked .release rfl)
  apply Action.Pairs.bind (asked (.buildTree unit style) rfl) _ same
  intro tree
  apply Action.Pairs.bind (Action.Pairs.emit _ _) _ same
  exact fun _ => Action.Pairs.pure tree.problems

theorem Services.markers_pairs (resource : Resource) :
    Action.Pairs related related (left.markers resource) (right.markers resource) := by
  have same : ∀ state other, related state other → related state other := fun _ _ => id
  apply Action.Pairs.bind (asked (.check resource .onDemand) rfl) _ same
  intro _
  apply Action.Pairs.bind (asked (.findMarkers resource .zero) rfl) _ same
  intro markers
  apply Action.Pairs.bind (Action.Pairs.emit _ _) _ same
  exact fun _ => Action.Pairs.pure markers

theorem Validator.scheduleBuild_pairs (config : Config) (project : Project) :
    Action.Pairs related related
      (Validator.scheduleBuild ⟨left, config⟩ project : Action (Event ε) σ φ Unit)
      (Validator.scheduleBuild ⟨right, config⟩ project) := by
  have same : ∀ state other, related state other → related state other := fun _ _ => id
  apply Action.Pairs.bind (asked (.schedule project) rfl).attempt _ same
  intro result
  cases result <;> exact Action.Pairs.emit _ _

end Parts

namespace Validator

variable {left : Services ε σ} {right : Services δ ρ} {alike : σ → ρ → Prop}
  {told : Path → σ → ρ → Prop} (answers : left.Alike right alike told) (config : Config)
  (request : Request)

include answers

theorem diagnose_pairs (unit : SourceUnit) :
    Action.Pairs (told unit.location) alike (Validator.diagnose ⟨left, config⟩ request unit)
      (Validator.diagnose ⟨right, config⟩ request unit) := by
  have asked := answers.asked_told unit.location
  have relax := answers.alike_of_told unit.location
  have same : ∀ state other, alike state other → alike state other := fun _ _ => id
  apply Action.Pairs.bind (Action.Pairs.mapError _ (asked .projects rfl)) _ relax
  intro scope
  apply Action.Pairs.bind
    (Action.Pairs.mapError _ (Services.problems_pairs asked scope unit config.treeStyle)) _ relax
  intro problems
  apply Action.Pairs.bind
    (Action.Pairs.mapError _ (Services.markers_pairs asked unit.resource)) _ relax
  intro markers
  apply Action.Pairs.bind (Action.Pairs.mapError _ (answers.loaded unit.location)) _ same
  intro resolver
  apply Action.Pairs.bind (Action.Pairs.forM (fun _ => Action.Pairs.emit _ _) _) _ same
  intro _
  apply Action.Pairs.bind (Action.Pairs.emit _ _) _ same
  exact fun _ => Action.Pairs.pure _

theorem run_pairs :
    Action.Pairs alike alike (Validator.run ⟨left, config⟩ request)
      (Validator.run ⟨right, config⟩ request) := by
  have same : ∀ state other, alike state other → alike state other := fun _ _ => id
  apply Action.Pairs.bind
    (Action.Pairs.mapError _ (answers.asked (.resolve request.project) rfl)) _ same
  intro project?
  cases project? with
  | none =>
      apply Action.Pairs.bind (Action.Pairs.emit _ _) _ same
      exact fun _ => Action.Pairs.pure none
  | some project =>
      apply Action.Pairs.bind
        (Action.Pairs.mapError _ (answers.asked (.findUnit project request.file) rfl)) _ same
      intro unit
      have relax := answers.alike_of_told unit.location
      apply Action.Pairs.bind
        (Action.Pairs.mapError _ (answers.asked (.refresh unit config.refreshMode) rfl)) _ same
      intro _
      apply Action.Pairs.bind (Action.Pairs.mapError _ (answers.announced unit.location)) _ relax
      intro _
      apply Action.Pairs.bind (Action.Pairs.emit _ _) _ relax
      intro _
      cases request.validate with
      | false =>
          apply Action.Pairs.bind (Action.Pairs.emit _ _) _ relax
          exact fun _ => (Action.Pairs.pure none).weaken relax
      | true =>
          apply Action.Pairs.bind (diagnose_pairs answers config request unit) _ same
          intro diagnostics
          cases request.build with
          | false => exact Action.Pairs.pure _
          | true =>
              apply Action.Pairs.bind
                (scheduleBuild_pairs answers.asked config project) _ same
              exact fun _ => Action.Pairs.pure _

end Validator

end SourceDiagnostics
