import SourceDiagnostics.Proofs.Validator.Traces

/-!
The discipline of the lock on the index over everything that can be done with it: requests and
parsings, in any order, each one no matter how those before it ended. What holds of every request
and every parsing, and of a sequence if it holds of its parts, holds of all such histories
(`performAll_traces`).
-/

namespace SourceDiagnostics

variable {ε σ φ ψ α : Type}

/-- The action that goes on whatever comes of it, as a caller does who survives an error or a
panic. -/
def Action.ignoreEnd (action : Action ε σ φ α) : Action ε σ ψ Unit := fun state =>
  ⟨.returned (), (action state).state, (action state).log⟩

inductive Use where
  | request (config : Config) (request : Request)
  | parse (scope : List Project) (unit : SourceUnit) (style : TreeStyle)

def Use.perform (services : Services ε σ) : Use → Action (Event ε) σ Empty Unit
  | .request config wanted => (Validator.run ⟨services, config⟩ wanted).ignoreEnd
  | .parse scope unit style => (services.problems scope unit style).ignoreEnd

def performAll (services : Services ε σ) (uses : List Use) : Action (Event ε) σ Empty Unit :=
  uses.forM (Use.perform services)

theorem performAll_traces {services : Services ε σ} {relation : σ → List (Event ε) → σ → Prop}
    (sequential : Sequential relation)
    (requested : ∀ config request, (Validator.run ⟨services, config⟩ request).Traces relation)
    (parsed : ∀ scope unit style, (services.problems scope unit style).Traces relation)
    (uses : List Use) : (performAll services uses).Traces relation := by
  apply Action.Traces.forM sequential
  intro use
  cases use with
  | request config request => exact requested config request
  | parse scope unit style => exact parsed scope unit style

namespace Lock

theorem watched_sequential :
    Sequential fun (_ : σ) (log : List (Event ε)) _ => Watched false log false where
  refl _ := .nil false
  trans := Watched.append

theorem inEpisodes_sequential :
    Sequential fun (_ : σ) (log : List (Event ε)) _ => InEpisodes log where
  refl _ := ⟨[], rfl, List.forall_mem_nil _⟩
  trans := by
    intro _ _ _ log later first last
    rcases first with ⟨front, same, all_front⟩
    rcases last with ⟨back, same', all_back⟩
    refine ⟨front ++ back, ?_, List.forall_mem_append.mpr ⟨all_front, all_back⟩⟩
    rw [Event.answers_append, concerning, List.filter_append, List.flatten_append, ← same, ← same']
    rfl

/-! A call that does not concern the lock leaves it alone. -/

theorem ask_watched (services : Services ε σ) (call : Call)
    (unconcerned : call.concernsLock = false) :
    (services.ask call).Traces fun _ log _ => Watched false log false := by
  intro state
  have allowed : call.needsLock = false := by
    cases call <;> first | rfl | cases unconcerned
  apply Watched.exchange allowed
  cases call <;> first | rfl | cases unconcerned

theorem ask_inEpisodes (services : Services ε σ) (call : Call)
    (unconcerned : call.concernsLock = false) :
    (services.ask call).Traces fun _ log _ => InEpisodes log := by
  intro state
  refine ⟨[], ?_, List.forall_mem_nil _⟩
  change concerning (Event.answers (Event.exchange ..)) = []
  rw [Event.answers_exchange, concerning, List.filter_cons_of_neg]
  · rfl
  · rw [unconcerned]
    exact Bool.false_ne_true

theorem performAll_watched (services : Services ε σ) (uses : List Use) :
    (performAll services uses).Traces fun _ log _ => Watched false log false := by
  have parsed (scope : List Project) (unit : SourceUnit) (style : TreeStyle) :
      (services.problems scope unit style).Traces fun _ log _ => Watched false log false :=
    fun state => (problems_parsing services scope unit style state).watched
  apply performAll_traces watched_sequential _ parsed
  intro config request
  apply Validator.run_traces watched_sequential _ (ask_watched services) parsed
  exact fun note _ => .noted false [note]

theorem performAll_inEpisodes (services : Services ε σ) (uses : List Use) :
    (performAll services uses).Traces fun _ log _ => InEpisodes log := by
  have parsed (scope : List Project) (unit : SourceUnit) (style : TreeStyle) :
      (services.problems scope unit style).Traces fun _ log _ => InEpisodes log := by
    intro state
    have episode := (problems_parsing services scope unit style state).episode
    refine ⟨[_], ?_, List.forall_mem_singleton.mpr episode⟩
    rw [concerning_of_episode episode]
    exact (List.append_nil _).symm
  apply performAll_traces inEpisodes_sequential _ parsed
  intro config request
  apply Validator.run_traces inEpisodes_sequential _ (ask_inEpisodes services) parsed
  exact fun note _ => ⟨[], rfl, List.forall_mem_nil _⟩

/-- Whatever is done, the log is a true account of the calls; those that concern the lock come in
episodes; in the end no lock is held, and on the way at most one; and exactly while one is held,
a call is to parse or to release. -/
theorem performAll_keeps_lock_discipline (services : Services ε σ) (uses : List Use) (state : σ) :
    let performed := performAll services uses state
    services.Recorded state performed.log performed.state ∧
      InEpisodes performed.log ∧
      outstanding performed.log = 0 ∧
      ∀ front event back, performed.log = front ++ event :: back →
        (outstanding front = 0 ∨ outstanding front = 1) ∧
        ∀ call, event = .asked call → (call.needsLock = true ↔ outstanding front = 1) := by
  intro performed
  have watched : Watched false performed.log false := performAll_watched services uses state
  refine ⟨?_, performAll_inEpisodes services uses state, watched.outstanding_eq, ?_⟩
  · exact performAll_traces services.recorded_sequential
      (fun config request => Validator.run_recorded ⟨services, config⟩ request)
      services.problems_recorded uses state
  · intro front event back split
    rw [split] at watched
    rcases watched.split with ⟨held, first, later⟩
    have count := first.outstanding_eq
    constructor
    · cases held with
      | false => exact .inl count
      | true => exact .inr count
    · intro call same
      subst same
      cases later with
      | cons step _ =>
          rw [needsLock_eq_of_watch step]
          cases held with
          | false => simp [count]
          | true => simp [count]

end Lock

end SourceDiagnostics
