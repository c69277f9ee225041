import SourceDiagnostics.Proofs.Validator.Traces

/-!
What a request tells the service for tables. Whatever becomes of a request, once its unit has been
refreshed the next thing that happens is that its file is said to have changed
(`Validator.run_announced`), and no unit is refreshed but that one.
-/

namespace SourceDiagnostics

/-- Every refresh that returned is followed at once by the word that the file of its unit may have
changed. -/
def Announced (answers : List Answered) : Prop :=
  ∀ front unit mode back, answers = front ++ ⟨.refresh unit mode, .returned ()⟩ :: back →
    ∃ outcome rest, back = ⟨.invalidate unit.location, outcome⟩ :: rest

def Answered.isRefreshed : Answered → Bool
  | ⟨.refresh _ _, .returned _⟩ => true
  | _ => false

namespace Announced

theorem nil : Announced [] := by
  intro front unit mode back split
  cases front <;> cases split

theorem cons {first : Answered} {rest : List Answered} (other : first.isRefreshed = false)
    (announced : Announced rest) : Announced (first :: rest) := by
  intro front unit mode back split
  rcases List.cons_eq_append_iff.mp split with ⟨_, same⟩ | ⟨front', _, same⟩
  · injection same with refreshed _
    rw [← refreshed] at other
    cases other
  · exact announced front' unit mode back same

theorem of_unprepared {answers : List Answered}
    (later : ∀ answer ∈ answers, answer.call.isPreparatory = false) : Announced answers := by
  intro front unit mode back split
  have member : (⟨.refresh unit mode, .returned ()⟩ : Answered) ∈ answers := by
    rw [split]
    exact List.mem_append_right _ List.mem_cons_self
  cases later _ member

theorem refreshed {unit : SourceUnit} {mode : RefreshMode}
    {outcome : Outcome (Call.invalidate unit.location).Failure (Call.invalidate unit.location).Reply}
    {rest : List Answered} (announced : Announced rest) :
    Announced (⟨.refresh unit mode, .returned ()⟩ :: ⟨.invalidate unit.location, outcome⟩ :: rest) := by
  intro front unit' mode' back split
  rcases List.cons_eq_append_iff.mp split with ⟨_, same⟩ | ⟨front', _, same⟩
  · injection same with refreshed back
    injection refreshed with call _
    injection call with units _
    subst units
    exact ⟨outcome, rest, back⟩
  · exact announced.cons rfl front' unit' mode' back same

end Announced

namespace Validator

variable {ε σ : Type}

def Unprepared (_ : σ) (log : List (Event ε)) (_ : σ) : Prop :=
  ∀ answer ∈ Event.answers log, answer.call.isPreparatory = false

theorem unprepared_sequential :
    Sequential (Unprepared : σ → List (Event ε) → σ → Prop) where
  refl _ := List.forall_mem_nil _
  trans front back := by
    rw [Unprepared, Event.answers_append]
    exact List.forall_mem_append.mpr ⟨front, back⟩

theorem ask_unprepared (services : Services ε σ) (call : Call)
    (later : call.isPreparatory = false) : (services.ask call).Traces Unprepared := by
  intro state
  change ∀ answer ∈ Event.answers (Event.exchange ..), _
  rw [Event.answers_exchange]
  exact List.forall_mem_singleton.mpr later

theorem run_announced (validator : Validator ε σ) (request : Request) :
    (validator.run request).Settles fun answers _ => Announced answers := by
  have noted (note : Note) (state : σ) : Unprepared state [(.noted note : Event ε)] state :=
    List.forall_mem_nil _
  have parsed := Services.problems_traces unprepared_sequential noted
    (ask_unprepared validator.services)
  have settled := after_refresh_traces unprepared_sequential noted
    (fun call _ => ask_unprepared validator.services call) parsed request
  rcases validator with ⟨services, config⟩
  apply Action.Settles.ask_mapError_bind services (.resolve request.project)
  case failed => exact fun error => error.elim
  case panicked => exact fun message => .cons rfl .nil
  intro project?
  cases project? with
  | none => exact .note_bind (.pure (.cons rfl .nil))
  | some project =>
      apply Action.Settles.ask_mapError_bind services (.findUnit project request.file)
      case failed => exact fun error => .cons rfl (.cons rfl .nil)
      case panicked => exact fun message => .cons rfl (.cons rfl .nil)
      intro unit
      apply Action.Settles.ask_mapError_bind services (.refresh unit config.refreshMode)
      case failed => exact fun error => .cons rfl (.cons rfl (.cons rfl .nil))
      case panicked => exact fun message => .cons rfl (.cons rfl (.cons rfl .nil))
      intro _
      apply Action.Settles.ask_mapError_bind services (.invalidate unit.location)
      case failed => exact fun error => error.elim
      case panicked => exact fun message => .cons rfl (.cons rfl (.refreshed .nil))
      intro _ state
      exact .cons rfl (.cons rfl (.refreshed (.of_unprepared (settled project unit state))))

end Validator

end SourceDiagnostics
