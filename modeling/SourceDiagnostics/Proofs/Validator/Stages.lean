import SourceDiagnostics.Proofs.Services.Lock
import SourceDiagnostics.Proofs.Validator.Gathering

/-!
The stages of a request. What is answered while a request is dealt with is either all of its
stages, or the stages up to the first one that failed; the parser's lock is given up in between
even if parsing failed. `Staged` says this of the parts of the validator, one lemma for each, and
`run_settles` of a whole request.
-/

namespace SourceDiagnostics

namespace Answered

/-- The cause for a request to fail that a failed call is. A rebuild that cannot be queued is
none. -/
def cause? : Answered → Option RequestError.Cause
  | ⟨.findUnit _ _, .failed error⟩ => some (.unit error)
  | ⟨.refresh _ _, .failed error⟩ => some (.index error)
  | ⟨.acquire _, .failed error⟩ => some (.index error)
  | ⟨.buildTree _ _, .failed error⟩ => some (.index error)
  | ⟨.check _ _, .failed error⟩ => some (.checker error)
  | ⟨.findMarkers _ _, .failed error⟩ => some (.checker error)
  | ⟨.load _, .failed error⟩ => some (.offsets error)
  | _ => none

/-- What is still answered after a stage that failed. -/
def cleanup : Answered → List Answered
  | ⟨.buildTree _ _, _⟩ => [⟨.release, .returned ()⟩]
  | _ => []

def panic? (answer : Answered) : Option String :=
  match answer.outcome with
  | .panicked message => some message
  | _ => none

theorem panic?_of_cause? {answer : Answered} {cause : RequestError.Cause}
    (caused : answer.cause? = some cause) : answer.panic? = none := by
  rcases answer with ⟨call, outcome⟩
  cases outcome with
  | returned reply => rfl
  | failed error => rfl
  | panicked message => cases call <;> cases caused

end Answered

/-- Answers of stages up to one that failed, and of the cleanup after that. -/
inductive StoppedAt (failed : Answered) : (stages answers : List Answered) → Prop
  | intro (front : List Answered) (succeeded : Answered) (back : List Answered)
      (same : succeeded.call = failed.call) :
      StoppedAt failed (front ++ succeeded :: back) (front ++ failed :: failed.cleanup)

theorem StoppedAt.frame {failed : Answered} {stages answers : List Answered}
    (stopped : StoppedAt failed stages answers) (earlier later : List Answered) :
    StoppedAt failed (earlier ++ (stages ++ later)) (earlier ++ answers) := by
  cases stopped with
  | intro front succeeded back same =>
      have framed := StoppedAt.intro (earlier ++ front) succeeded (back ++ later) same
      simpa only [List.append_assoc, List.cons_append] using framed

/-- The answers and the end of something done in stages: all stages answered, or stopped at a
failure that is to blame, or ended by a panic. -/
inductive Staged {ρ φ α : Type} (stages : ρ → List Answered) (value : ρ → α)
    (blames : φ → Answered → Prop) : List Answered → Outcome φ α → Prop
  | completed (replies : ρ) :
      Staged stages value blames (stages replies) (.returned (value replies))
  | stopped (replies : ρ) {failed : Answered} {answers : List Answered} {error : φ}
      (at_failure : StoppedAt failed (stages replies) answers) (blamed : blames error failed) :
      Staged stages value blames answers (.failed error)
  | panicked {answers : List Answered} {message : String}
      (first : answers.findSome? Answered.panic? = some message) :
      Staged stages value blames answers (.panicked message)

namespace Action.Settles

variable {ρ ε σ φ ψ α β : Type} {stages : ρ → List Answered} {value : ρ → α}
  {blames : φ → Answered → Prop}

theorem staged_mapError {convert : φ → ψ} {action : Action (Event ε) σ φ α}
    (staged : action.Settles (Staged stages value blames)) :
    (action.mapError convert).Settles
      (Staged stages value fun error failed => ∃ source, blames source failed ∧
        error = convert source) := by
  apply staged.mapError
  intro answers outcome course
  cases course with
  | completed replies => exact .completed replies
  | stopped replies at_failure blamed => exact .stopped replies at_failure ⟨_, blamed, rfl⟩
  | panicked first => exact .panicked first

theorem staged_bind {action : Action (Event ε) σ φ α} {next : α → Action (Event ε) σ φ β}
    {post : List Answered → Outcome φ β → Prop}
    (staged : action.Settles (Staged stages value blames))
    (completed : ∀ replies, (next (value replies)).Settles fun later outcome =>
      post (stages replies ++ later) outcome)
    (stopped : ∀ replies failed answers error, StoppedAt failed (stages replies) answers →
      blames error failed → post answers (.failed error))
    (panicked : ∀ answers message, answers.findSome? Answered.panic? = some message →
      post answers (.panicked message)) : (action >>= next).Settles post := by
  apply staged.bind
  · intro answers result course
    cases course with
    | completed replies => exact completed replies
  · intro answers error course
    cases course with
    | stopped replies at_failure blamed => exact stopped replies _ _ _ at_failure blamed
  · intro answers message course
    cases course with
    | panicked first => exact panicked _ _ first

end Action.Settles

namespace Services

variable {ε σ : Type}

/-! The stages of parsing and of checking. -/

def parsing (scope : List Project) (unit : SourceUnit) (style : TreeStyle) (tree : SyntaxTree) :
    List Answered :=
  [⟨.acquire scope, .returned ()⟩, ⟨.buildTree unit style, .returned tree⟩,
    ⟨.release, .returned ()⟩]

def checking (resource : Resource) (markers : List Marker) : List Answered :=
  [⟨.check resource .onDemand, .returned ()⟩, ⟨.findMarkers resource .zero, .returned markers⟩]

theorem staged_of_parsing {scope : List Project} {unit : SourceUnit} {style : TreeStyle}
    {log : List (Event ε)} {outcome : Outcome IndexError (List Problem)}
    (course : Lock.Parsing scope unit style log outcome) :
    Staged (parsing scope unit style) SyntaxTree.problems
      (fun error failed => failed.cause? = some (.index error)) (Event.answers log) outcome := by
  cases course with
  | refused log error =>
      rw [Event.answers_exchange]
      exact .stopped default (.intro [] ⟨.acquire scope, .returned ()⟩ _ rfl) rfl
  | refusedByPanic log message =>
      rw [Event.answers_exchange]
      exact .panicked rfl
  | held log built closed tree notes released =>
      rw [Lock.Parsing.answers_held]
      cases tree with
      | panicked message => exact .panicked rfl
      | returned tree =>
          cases released with
          | returned reply => exact .completed tree
          | failed error => exact error.elim
          | panicked message => exact .panicked rfl
      | failed error =>
          cases released with
          | returned reply =>
              exact .stopped default
                (.intro [_] ⟨.buildTree unit style, .returned default⟩ [_] rfl) rfl
          | failed error => exact error.elim
          | panicked message => exact .panicked rfl

theorem problems_settles (services : Services ε σ) (scope : List Project) (unit : SourceUnit)
    (style : TreeStyle) :
    (services.problems scope unit style).Settles
      (Staged (parsing scope unit style) SyntaxTree.problems
        fun error failed => failed.cause? = some (.index error)) := fun state =>
  staged_of_parsing (Lock.problems_parsing services scope unit style state)

theorem markers_settles (services : Services ε σ) (resource : Resource) :
    (services.markers resource).Settles
      (Staged (checking resource) id fun error failed =>
        failed.cause? = some (.checker error)) := by
  apply Action.Settles.ask_bind services (.check resource .onDemand)
  · intro _
    apply Action.Settles.ask_bind services (.findMarkers resource .zero)
    · exact fun markers => .note_bind (.pure (.completed markers))
    · intro error
      exact .stopped default
        (.intro [_] ⟨.findMarkers resource .zero, .returned default⟩ [] rfl) rfl
    · exact fun message => .panicked rfl
  · intro error
    exact .stopped default (.intro [] ⟨.check resource .onDemand, .returned ()⟩ _ rfl) rfl
  · exact fun message => .panicked rfl

end Services

/-! The stages of gathering what there is to report about a unit. -/

structure Reports where
  scope : List Project
  tree : SyntaxTree
  markers : List Marker
  resolver : Resolver
  deriving Inhabited

namespace Reports

def stages (config : Config) (unit : SourceUnit) (reports : Reports) : List Answered :=
  ⟨.projects, .returned reports.scope⟩ ::
    (Services.parsing reports.scope unit config.treeStyle reports.tree ++
      (Services.checking unit.resource reports.markers ++
        [⟨.load unit.location, .returned reports.resolver⟩]))

def found (reports : Reports) : Found :=
  ⟨reports.tree.problems, reports.markers, reports.resolver⟩

def diagnostics (config : Config) (unit : SourceUnit) (reports : Reports) : List Diagnostic :=
  Diagnostic.sort (Finding.reported (Validator.reportPath config unit.location) reports.resolver
    config.errorSeverity (Finding.all reports.tree.problems reports.markers))

end Reports

namespace Validator

variable {ε σ : Type}

def Blames (request : Request) (error : RequestError) (failed : Answered) : Prop :=
  ∃ cause, failed.cause? = some cause ∧ error = .of request cause

theorem gather_settles (validator : Validator ε σ) (request : Request) (unit : SourceUnit) :
    (validator.gather request unit).Settles
      (Staged (Reports.stages validator.config unit) Reports.found (Blames request)) := by
  rcases validator with ⟨services, config⟩
  apply Action.Settles.ask_mapError_bind services .projects
  case failed => exact fun error => error.elim
  case panicked => exact fun message => .panicked rfl
  intro scope
  apply (services.problems_settles scope unit config.treeStyle).staged_mapError.staged_bind
  case stopped =>
    intro tree failed answers error at_failure blamed
    rcases blamed with ⟨source, caused, rfl⟩
    exact .stopped ⟨scope, tree, default, default⟩
      (at_failure.frame [⟨.projects, .returned scope⟩] _) ⟨_, caused, rfl⟩
  case panicked => exact fun answers message first => .panicked first
  intro tree
  apply (services.markers_settles unit.resource).staged_mapError.staged_bind
  case stopped =>
    intro markers failed answers error at_failure blamed
    rcases blamed with ⟨source, caused, rfl⟩
    exact .stopped ⟨scope, tree, markers, default⟩
      (at_failure.frame (⟨.projects, .returned scope⟩ :: Services.parsing ..) _)
      ⟨_, caused, rfl⟩
  case panicked => exact fun answers message first => .panicked first
  intro markers
  apply Action.Settles.ask_mapError_bind services (.load unit.location)
  case failed =>
    intro error
    exact .stopped ⟨scope, tree, markers, default⟩
      (.intro (⟨.projects, .returned scope⟩ ::
        (Services.parsing scope unit config.treeStyle tree ++
          Services.checking unit.resource markers))
        ⟨.load unit.location, .returned default⟩ [] rfl) ⟨_, rfl, rfl⟩
  case panicked => exact fun message => .panicked rfl
  intro resolver
  exact .pure (Staged.completed (⟨scope, tree, markers, resolver⟩ : Reports))

theorem diagnose_settles (validator : Validator ε σ) (request : Request) (unit : SourceUnit) :
    (validator.diagnose request unit).Settles
      (Staged (Reports.stages validator.config unit) (Reports.diagnostics validator.config unit)
        (Blames request)) := by
  rw [diagnose_eq]
  apply (validator.gather_settles request unit).staged_bind
  case stopped =>
    intro reports failed answers error at_failure blamed
    exact .stopped reports at_failure blamed
  case panicked => exact fun answers message first => .panicked first
  intro reports
  apply Action.Settles.notes_bind
  apply Action.Settles.note_bind
  apply Action.Settles.pure
  rw [List.append_nil]
  exact .completed reports

end Validator

end SourceDiagnostics
