import SourceDiagnostics.Proofs.Action.Rules
import SourceDiagnostics.Services.Basic

/-!
What a log says about the calls that were made. `Event.answers` lists the calls that came to an
end, each with its outcome; `Trail` says that they are what the services answered, one after the
other, from a given state on. Whatever is put together from `Services.ask` and notes leaves such
a trail (`Services.Recorded`), so statements about the order and the outcomes of calls can be read
off the log.
-/

namespace SourceDiagnostics

structure Answered where
  call : Call
  outcome : Outcome call.Failure call.Reply

namespace Event

variable {ε : Type}

def call? : Event ε → Option Call
  | asked call => some call
  | _ => none

def answer? : Event ε → Option Answered
  | answered call outcome => some ⟨call, outcome⟩
  | _ => none

def calls (log : List (Event ε)) : List Call :=
  log.filterMap call?

def answers (log : List (Event ε)) : List Answered :=
  log.filterMap answer?

@[simp] theorem calls_nil : calls ([] : List (Event ε)) = [] := rfl

@[simp] theorem answers_nil : answers ([] : List (Event ε)) = [] := rfl

@[simp] theorem calls_append (log later : List (Event ε)) :
    calls (log ++ later) = calls log ++ calls later :=
  List.filterMap_append

@[simp] theorem answers_append (log later : List (Event ε)) :
    answers (log ++ later) = answers log ++ answers later :=
  List.filterMap_append

@[simp] theorem calls_asked_cons (call : Call) (log : List (Event ε)) :
    calls (asked call :: log) = call :: calls log := rfl

@[simp] theorem answers_asked_cons (call : Call) (log : List (Event ε)) :
    answers (asked call :: log) = answers log := rfl

@[simp] theorem calls_answered_cons (call : Call) (outcome : Outcome call.Failure call.Reply)
    (log : List (Event ε)) : calls (answered call outcome :: log) = calls log := rfl

@[simp] theorem answers_answered_cons (call : Call) (outcome : Outcome call.Failure call.Reply)
    (log : List (Event ε)) :
    answers (answered call outcome :: log) = ⟨call, outcome⟩ :: answers log := rfl

/-! What is noted and what a service logs is neither a question nor an answer. -/

@[simp] theorem answers_noted (notes : List Note) :
    answers (notes.map noted : List (Event ε)) = [] := by
  induction notes with
  | nil => rfl
  | cons note rest induction => exact induction

@[simp] theorem calls_service (log : List ε) : calls (log.map service) = [] := by
  induction log with
  | nil => rfl
  | cons event rest induction => exact induction

@[simp] theorem answers_service (log : List ε) : answers (log.map service) = [] := by
  induction log with
  | nil => rfl
  | cons event rest induction => exact induction

def exchange (call : Call) (log : List ε) (outcome : Outcome call.Failure call.Reply) :
    List (Event ε) :=
  asked call :: log.map service ++ [answered call outcome]

theorem calls_exchange (call : Call) (log : List ε) (outcome : Outcome call.Failure call.Reply) :
    calls (exchange call log outcome) = [call] := by
  simp [exchange]

theorem answers_exchange (call : Call) (log : List ε) (outcome : Outcome call.Failure call.Reply) :
    answers (exchange call log outcome) = [⟨call, outcome⟩] := by
  simp [exchange]

end Event

namespace Services

variable {ε σ φ ψ α β : Type}

/-! What the services answered, one call after the other. -/

/-- From one state to another, the services were called so and answered so. Each call finds the
state that the one before it left. -/
inductive Trail (services : Services ε σ) : σ → List Answered → σ → Prop
  | nil (state) : Trail services state [] state
  | cons (state call) {answers final} :
      Trail services (services call state).state answers final →
      Trail services state (⟨call, (services call state).outcome⟩ :: answers) final

theorem Trail.append {services : Services ε σ} {first between last : σ}
    {answers later : List Answered} (front : Trail services first answers between)
    (back : Trail services between later last) : Trail services first (answers ++ later) last := by
  induction front with
  | nil => exact back
  | cons state call _ induction => exact .cons state call (induction back)

theorem Trail.split {services : Services ε σ} {front back : List Answered} :
    ∀ {first last : σ}, services.Trail first (front ++ back) last →
      ∃ between, services.Trail first front between ∧ services.Trail between back last := by
  induction front with
  | nil => exact fun trail => ⟨_, .nil _, trail⟩
  | cons head tail induction =>
      intro first last trail
      cases trail with
      | cons state call later =>
          rcases induction later with ⟨between, before, after⟩
          exact ⟨between, .cons first call before, after⟩

theorem Trail.head {services : Services ε σ} {call : Call}
    {outcome : Outcome call.Failure call.Reply} {rest : List Answered} {first last : σ}
    (trail : services.Trail first (⟨call, outcome⟩ :: rest) last) :
    outcome = (services call first).outcome ∧
      services.Trail (services call first).state rest last := by
  cases trail with
  | cons state call later => exact ⟨rfl, later⟩

/-- A log from one state to another that gives a true and full account of the calls. -/
structure Recorded (services : Services ε σ) (state : σ) (log : List (Event ε)) (final : σ) :
    Prop where
  trail : Trail services state (Event.answers log) final
  all_answered : Event.calls log = (Event.answers log).map Answered.call

theorem recorded_sequential (services : Services ε σ) : Sequential services.Recorded where
  refl state := ⟨.nil state, rfl⟩
  trans front back :=
    { trail := by
        rw [Event.answers_append]
        exact front.trail.append back.trail
      all_answered := by
        rw [Event.calls_append, Event.answers_append, List.map_append, front.all_answered,
          back.all_answered] }

theorem ask_log (services : Services ε σ) (call : Call) (state : σ) :
    (services.ask call state).log =
      Event.exchange call (services call state).log (services call state).outcome :=
  rfl

theorem ask_recorded (services : Services ε σ) (call : Call) :
    (services.ask call).Traces services.Recorded := by
  intro state
  have answered :=
    Event.answers_exchange call (services call state).log (services call state).outcome
  constructor
  · change services.Trail state (Event.answers (Event.exchange ..)) _
    rw [answered]
    exact .cons state call (.nil _)
  · change Event.calls (Event.exchange ..) = (Event.answers (Event.exchange ..)).map _
    rw [answered]
    exact Event.calls_exchange call _ _

end Services

namespace Action

variable {ε σ φ ψ α β : Type}

/-! What is answered in the course of an action, and how the action ends. -/

def Settles (post : List Answered → Outcome φ α → Prop) (action : Action (Event ε) σ φ α) : Prop :=
  action.Ends fun log outcome => post (Event.answers log) outcome

namespace Settles

theorem pure {post : List Answered → Outcome φ α → Prop} {value : α}
    (holds : post [] (.returned value)) :
    Settles post (Pure.pure value : Action (Event ε) σ φ α) := fun _ => holds

theorem note {post : List Answered → Outcome φ Unit → Prop} {note : Note}
    (holds : post [] (.returned ())) :
    (Action.note note : Action (Event ε) σ φ Unit).Settles post := fun _ => holds

theorem note_bind {post : List Answered → Outcome φ α → Prop} {note : Note}
    {next : Unit → Action (Event ε) σ φ α} (later : (next ()).Settles post) :
    (Action.note note >>= next).Settles post := fun state => later state

theorem notes_bind {β : Type} {post : List Answered → Outcome φ α → Prop} (notes : β → Note)
    (values : List β) {next : Unit → Action (Event ε) σ φ α} (later : (next ()).Settles post) :
    ((values.forM fun value => Action.note (notes value)) >>= next).Settles post := by
  induction values with
  | nil => exact later
  | cons head tail induction =>
      change Settles post (Action.note (notes head) >>=
        (fun _ => tail.forM fun value => Action.note (notes value)) >>= next)
      rw [bind_assoc]
      exact note_bind induction

theorem ask_mapError_bind (services : Services ε σ) (call : Call) {convert : call.Failure → φ}
    {next : call.Reply → Action (Event ε) σ φ α} {post : List Answered → Outcome φ α → Prop}
    (returned : ∀ reply, (next reply).Settles fun later outcome =>
      post (⟨call, .returned reply⟩ :: later) outcome)
    (failed : ∀ error, post [⟨call, .failed error⟩] (.failed (convert error)))
    (panicked : ∀ message, post [⟨call, .panicked message⟩] (.panicked message)) :
    ((services.ask call).mapError convert >>= next).Settles post := by
  intro state
  rw [bind_apply, mapError_apply, Services.ask_apply]
  rcases services call state with ⟨reply | error | message, between, log⟩
  · simpa [Outcome.mapError] using returned reply between
  · simpa [Outcome.mapError] using failed error
  · simpa [Outcome.mapError] using panicked message

theorem ask_bind (services : Services ε σ) (call : Call)
    {next : call.Reply → Action (Event ε) σ call.Failure α}
    {post : List Answered → Outcome call.Failure α → Prop}
    (returned : ∀ reply, (next reply).Settles fun later outcome =>
      post (⟨call, .returned reply⟩ :: later) outcome)
    (failed : ∀ error, post [⟨call, .failed error⟩] (.failed error))
    (panicked : ∀ message, post [⟨call, .panicked message⟩] (.panicked message)) :
    (services.ask call >>= next).Settles post := by
  rw [← mapError_id (services.ask call)]
  exact ask_mapError_bind services call returned failed panicked

theorem ask_attempt_bind (services : Services ε σ) (call : Call)
    {next : Except call.Failure call.Reply → Action (Event ε) σ φ α}
    {post : List Answered → Outcome φ α → Prop}
    (settled : ∀ result, (next result).Settles fun later outcome =>
      post (⟨call, .ofExcept result⟩ :: later) outcome)
    (panicked : ∀ message, post [⟨call, .panicked message⟩] (.panicked message)) :
    ((services.ask call).attempt >>= next).Settles post := by
  intro state
  rw [bind_apply, attempt_apply, Services.ask_apply]
  rcases services call state with ⟨reply | error | message, between, log⟩
  · simpa [Outcome.attempt, Outcome.ofExcept] using settled (.ok reply) between
  · simpa [Outcome.attempt, Outcome.ofExcept] using settled (.error error) between
  · simpa [Outcome.attempt] using panicked message

theorem bind {middle : List Answered → Outcome φ α → Prop}
    {post : List Answered → Outcome φ β → Prop} {action : Action (Event ε) σ φ α}
    {next : α → Action (Event ε) σ φ β} (first : action.Settles middle)
    (returned : ∀ answers value, middle answers (.returned value) →
      (next value).Settles fun later outcome => post (answers ++ later) outcome)
    (failed : ∀ answers error, middle answers (.failed error) → post answers (.failed error))
    (panicked : ∀ answers message, middle answers (.panicked message) →
      post answers (.panicked message)) : (action >>= next).Settles post := by
  refine Ends.bind first ?_ (fun log => failed _) (fun log => panicked _)
  intro log value reached
  simpa only [Settles, Event.answers_append] using returned _ value reached

theorem mapError {middle : List Answered → Outcome φ α → Prop}
    {post : List Answered → Outcome ψ α → Prop} {convert : φ → ψ}
    {action : Action (Event ε) σ φ α} (settles : action.Settles middle)
    (converted : ∀ answers outcome, middle answers outcome →
      post answers (outcome.mapError convert)) : (action.mapError convert).Settles post :=
  Ends.mapError settles fun _ => converted _

end Settles

end Action

end SourceDiagnostics
