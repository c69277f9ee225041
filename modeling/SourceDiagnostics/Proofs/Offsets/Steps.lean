import SourceDiagnostics.Offsets.History
import SourceDiagnostics.Proofs.Action.Rules

/-!
The steps of a history, one by one. `steps_induction` is the induction that follows how steps are
nested: what holds of a list of steps may depend on what holds of the steps during its first one.
`Remembering` lists what a load through a layer of memory can come to.
-/

namespace SourceDiagnostics

inductive Provider.Remembering {ε σ τ : Type} [NoteLog ε] (slot : Slot σ (Memo τ))
    (inner : Provider ε σ τ) (path : Path) (state : σ) : Ran ε σ FileError τ → Prop
  | hit (table : τ) (found : (slot.get state).find? path = some table) :
      Remembering slot inner path state
        ⟨.returned table, state, [NoteLog.note (.tableRemembered path)]⟩
  | stored (table : τ) (between : σ) (log : List ε)
      (missing : (slot.get state).find? path = none)
      (loaded : inner.load path state = ⟨.returned table, between, log⟩)
      (unmoved : (slot.get between).generation = (slot.get state).generation) :
      Remembering slot inner path state
        ⟨.returned table, slot.set ((slot.get between).insert path table) between, log⟩
  | outdated (table : τ) (between : σ) (log : List ε)
      (missing : (slot.get state).find? path = none)
      (loaded : inner.load path state = ⟨.returned table, between, log⟩)
      (moved : (slot.get between).generation ≠ (slot.get state).generation) :
      Remembering slot inner path state
        ⟨.returned table, between, log ++ [NoteLog.note (.tableOutdated path)]⟩
  | failed (error : FileError) (between : σ) (log : List ε)
      (missing : (slot.get state).find? path = none)
      (loaded : inner.load path state = ⟨.failed error, between, log⟩) :
      Remembering slot inner path state ⟨.failed error, between, log⟩
  | panicked (message : String) (between : σ) (log : List ε)
      (missing : (slot.get state).find? path = none)
      (loaded : inner.load path state = ⟨.panicked message, between, log⟩) :
      Remembering slot inner path state ⟨.panicked message, between, log⟩

theorem Provider.load_remembering {ε σ τ : Type} [NoteLog ε] (slot : Slot σ (Memo τ))
    (inner : Provider ε σ τ) (path : Path) (state : σ) :
    Remembering slot inner path state ((remembering slot inner).load path state) := by
  cases found : (slot.get state).find? path with
  | some table =>
      simp only [remembering, Action.bind_apply, Action.gets_apply, found]
      exact .hit table found
  | none =>
      simp only [remembering, Action.bind_apply, Action.gets_apply, found, List.nil_append]
      rcases loaded : inner.load path state with ⟨table | error | message, between, log⟩
      · by_cases unmoved : (slot.get between).generation = (slot.get state).generation
        · simp only [if_pos unmoved, Action.bind_apply, Action.modify_apply, Action.pure_apply,
            List.append_nil]
          exact .stored table between log found loaded unmoved
        · simp only [if_neg unmoved, Action.bind_apply, Action.pure_apply]
          exact .outdated table between log found loaded unmoved
      · exact .failed error between log found loaded
      · exact .panicked message between log found loaded

theorem Provider.load_remembering_of_loaded {ε σ τ : Type} [NoteLog ε] {slot : Slot σ (Memo τ)}
    {inner : Provider ε σ τ} {path : Path} {state between : σ} {result : Except FileError τ}
    {log : List ε} : inner.load path state = ⟨.ofExcept result, between, log⟩ →
    (remembering slot inner).load path state =
      match (slot.get state).find? path, result with
      | some table, _ =>
          ⟨.ofExcept (.ok table), state, [NoteLog.note (.tableRemembered path)]⟩
      | none, .error error => ⟨.ofExcept (.error error), between, log⟩
      | none, .ok table =>
          if (slot.get between).generation = (slot.get state).generation then
            ⟨.ofExcept (.ok table), slot.set ((slot.get between).insert path table) between, log⟩
          else
            ⟨.ofExcept (.ok table), between, log ++ [NoteLog.note (.tableOutdated path)]⟩ := by
  intro loaded
  cases found : (slot.get state).find? path with
  | some table =>
      simp only [remembering, Action.bind_apply, Action.gets_apply, found]
      rfl
  | none =>
      simp only [remembering, Action.bind_apply, Action.gets_apply, found, loaded,
        List.nil_append]
      cases result with
      | error error => rfl
      | ok table =>
          simp only [Outcome.ofExcept]
          split <;> simp [Action.bind_apply, Action.note]

def Provider.Calm {ε σ τ : Type} (provider : Provider ε σ τ) : Prop :=
  ∀ path state, ∃ result final log, provider.load path state = ⟨.ofExcept result, final, log⟩

theorem Provider.remembering_calm {ε σ τ : Type} [NoteLog ε] (slot : Slot σ (Memo τ))
    {inner : Provider ε σ τ} (calm : inner.Calm) : (remembering slot inner).Calm := by
  intro path state
  have run := load_remembering slot inner path state
  generalize Provider.load _ path state = ran at run ⊢
  cases run with
  | hit table found => exact ⟨.ok table, _, _, rfl⟩
  | stored table between log missing loaded unmoved => exact ⟨.ok table, _, _, rfl⟩
  | outdated table between log missing loaded moved => exact ⟨.ok table, _, _, rfl⟩
  | failed error between log missing loaded => exact ⟨.error error, _, _, rfl⟩
  | panicked message between log missing loaded =>
      rcases calm path state with ⟨result, _, _, returned⟩
      rw [loaded] at returned
      cases result <;> cases returned

/-- What a sequence inherits from its parts holds of a load through a layer of memory, if it holds of
loads below that layer, and still does when a table is remembered that was missing at first. -/
theorem Provider.remembering_traces {ε σ τ : Type} [NoteLog ε] {slot : Slot σ (Memo τ)}
    {inner : Provider ε σ τ} {relation : σ → List ε → σ → Prop} (sequential : Sequential relation)
    (noted : ∀ note state, relation state [NoteLog.note note] state)
    (stored : ∀ path table state between log, (slot.get state).find? path = none →
      relation state log between →
        relation state log (slot.set ((slot.get between).insert path table) between))
    (traces : ∀ path, (inner.load path).Traces relation) (path : Path) :
    ((remembering slot inner).load path).Traces relation := by
  intro state
  have kept := traces path state
  have run := load_remembering slot inner path state
  generalize Provider.load _ path state = ran at run ⊢
  cases run with
  | hit table found => exact noted _ state
  | stored table between log missing loaded unmoved =>
      rw [loaded] at kept
      exact stored path table state between log missing kept
  | outdated table between log missing loaded moved =>
      rw [loaded] at kept
      exact sequential.trans kept (noted _ between)
  | failed error between log missing loaded => rwa [loaded] at kept
  | panicked message between log missing loaded => rwa [loaded] at kept

namespace Offsets

/-! Steps and the steps during them. -/

def Step.during : Step → List Step
  | .load _ _ _ during => during
  | _ => []

theorem steps_induction {holds : List Step → Prop} (nil : holds [])
    (cons : ∀ step rest, holds step.during → holds rest → holds (step :: rest)) :
    ∀ steps, holds steps
  | [] => nil
  | step :: rest =>
      have smaller : sizeOf step.during < sizeOf (step :: rest) := by
        cases step <;> simp [Step.during] <;> omega
      cons step rest (steps_induction nil cons step.during) (steps_induction nil cons rest)
termination_by steps => sizeOf steps

/-- Steps that all have a property, and so have those that happen during them, at any depth. -/
inductive Throughout (allowed : Step → Prop) : List Step → Prop
  | nil : Throughout allowed []
  | cons {step : Step} {rest : List Step} (first : allowed step)
      (inside : Throughout allowed step.during) (later : Throughout allowed rest) :
      Throughout allowed (step :: rest)

theorem throughout_of_all {allowed : Step → Prop} (steps : List Step)
    (all : ∀ step, allowed step) : Throughout allowed steps := by
  induction steps using steps_induction with
  | nil => exact .nil
  | cons step rest inside later => exact .cons (all step) inside later

variable {φ τ : Type} [FileStore φ]

/-- A file is read first; then everything happens that is to happen during that; and then what was
read is handed out. -/
theorem load_files (compile : Bytes → τ) (during : Action (Event τ) (State φ τ) Empty Unit)
    (path : Path) (state : State φ τ) :
    (files compile during).load path state =
      let result := (FileStore.read state.files path).map compile
      let happened := during { state with reads := state.reads + 1 }
      ⟨match happened.outcome with
        | .returned _ => .ofExcept result
        | .failed error => error.elim
        | .panicked message => .panicked message,
        happened.state, .read path result :: happened.log⟩ := by
  simp only [files, Action.bind_apply, Action.gets_apply, Action.emit_apply, Action.modify_apply,
    liftM, monadLift, MonadLift.monadLift, Action.mapError_apply, List.nil_append,
    List.singleton_append]
  generalize (FileStore.read state.files path).map compile = result
  rcases during _ with ⟨_ | error | message, final, log⟩
  · cases result with
    | ok table => simp [Outcome.mapError, Action.ofExcept, Outcome.ofExcept]
    | error error => simp [Outcome.mapError, Action.ofExcept, Outcome.ofExcept]
  · exact error.elim
  · rfl

def Step.take (compile : Bytes → τ) (stacking : Stacking) (step : Step) :
    Action (Event τ) (State φ τ) Empty Unit := do
  Action.emit (.began step)
  let answer ← step.perform compile stacking
  Action.emit (.ended step answer)

theorem performAll_cons (compile : Bytes → τ) (stacking : Stacking) (step : Step)
    (rest : List Step) : (performAll compile stacking (step :: rest) :
      Action (Event τ) (State φ τ) Empty Unit) =
      (do step.take compile stacking; performAll compile stacking rest) := by
  simp only [Step.take, performAll, bind_assoc]

/-! Every history comes to an end without a panic. -/

theorem files_calm (compile : Bytes → τ) {during : Action (Event τ) (State φ τ) Empty Unit}
    (returns : ∀ state, (during state).outcome = .returned ()) : (files compile during).Calm := by
  intro path state
  rw [load_files]
  dsimp only
  rw [returns]
  exact ⟨_, _, _, rfl⟩

omit [FileStore φ] in
theorem layered_calm (stacking : Stacking) (layer : Layer)
    {base : Provider (Event τ) (State φ τ) τ} (calm : base.Calm) :
    (layered stacking layer base).Calm := by
  have lower := Provider.remembering_calm State.lowerSlot calm
  cases stacking with
  | single => cases layer <;> exact lower
  | double =>
      cases layer with
      | bottom => exact lower
      | top => exact Provider.remembering_calm State.upperSlot lower

omit [FileStore φ] in
theorem layered_traces {stacking : Stacking} {base : Provider (Event τ) (State φ τ) τ}
    {relation : State φ τ → List (Event τ) → State φ τ → Prop} (sequential : Sequential relation)
    (noted : ∀ note state, relation state [.noted note] state)
    (stored : ∀ layer path table state between log,
      ((State.slot stacking layer).get state).find? path = none → relation state log between →
        relation state log ((State.slot stacking layer).set
          (((State.slot stacking layer).get between).insert path table) between))
    (traces : ∀ path, (base.load path).Traces relation) (layer : Layer) (path : Path) :
    ((layered stacking layer base).load path).Traces relation := by
  have lower := Provider.remembering_traces sequential noted (stored .bottom) traces
  cases stacking with
  | single => cases layer <;> exact lower path
  | double =>
      cases layer with
      | bottom => exact lower path
      | top => exact Provider.remembering_traces sequential noted (stored .top) lower path

theorem perform_load {compile : Bytes → τ} {stacking : Stacking} {layer : Layer} {path : Path}
    {during : List Step} {state final : State φ τ} {result : Except FileError τ}
    {log : List (Event τ)} (loaded : (layered stacking layer
      (files compile (performAll compile stacking during))).load path state =
        ⟨.ofExcept result, final, log⟩) (offsets : List Offset) :
    (Step.load layer path offsets during).perform compile stacking state =
      ⟨.returned (.ofExcept result), final, log⟩ := by
  rw [Step.perform]
  simp only [Action.bind_apply, Action.attempt_apply, loaded]
  cases result <;> simp [Outcome.attempt, Outcome.ofExcept]

theorem perform_hold_of_loaded {compile : Bytes → τ} {stacking : Stacking} {path : Path}
    {state final : State φ τ} {result : Except FileError τ} {log : List (Event τ)}
    (loaded : (layered stacking .top (files compile (pure ()))).load path state =
      ⟨.ofExcept result, final, log⟩) (name : String) :
    (Step.hold name path).perform compile stacking state =
      ⟨.returned (.ofExcept result),
        match result with
        | .ok table => final.keep name table
        | .error _ => final,
        log⟩ := by
  rw [Step.perform]
  simp only [Action.bind_apply, Action.attempt_apply, loaded]
  cases result <;> simp [Outcome.attempt, Outcome.ofExcept, Action.bind_apply]

theorem perform_hold {compile : Bytes → τ} {stacking : Stacking} {path : Path}
    {state final : State φ τ} {result : Except FileError τ} {log : List (Event τ)}
    (loaded : (layered stacking .top (files compile (pure ()))).load path state =
      ⟨.ofExcept result, final, log⟩) (name : String) :
    ∃ kept, (Step.hold name path).perform compile stacking state =
        ⟨.returned (.ofExcept result), kept, log⟩ ∧
      kept.files = final.files ∧ kept.reads = final.reads ∧
        kept.lower = final.lower ∧ kept.upper = final.upper := by
  refine ⟨_, perform_hold_of_loaded loaded name, ?_⟩
  cases result <;> exact ⟨rfl, rfl, rfl, rfl⟩

theorem take_apply {compile : Bytes → τ} {stacking : Stacking} {step : Step} {answer : Answer τ}
    {state final : State φ τ} {log : List (Event τ)}
    (performed : step.perform compile stacking state = ⟨.returned answer, final, log⟩) :
    step.take compile stacking state =
      ⟨.returned (), final, .began step :: (log ++ [.ended step answer])⟩ := by
  simp [Step.take, Action.bind_apply, performed]

omit [FileStore φ] in
theorem pure_returns (state : State φ τ) :
    ((pure () : Action (Event τ) (State φ τ) Empty Unit) state).outcome = .returned () :=
  congrArg Ran.outcome (Action.pure_apply () state)

theorem take_returns (compile : Bytes → τ) (stacking : Stacking) (step : Step)
    (returns : ∀ state : State φ τ,
      (performAll compile stacking step.during state).outcome = .returned ()) (state : State φ τ) :
    (step.take compile stacking state).outcome = .returned () := by
  have performed : ∃ answer final log,
      step.perform compile stacking state = ⟨.returned answer, final, log⟩ := by
    cases step with
    | load layer path offsets during =>
        rcases layered_calm stacking layer (files_calm compile returns) path state with
          ⟨result, final, log, loaded⟩
        exact ⟨_, _, _, perform_load loaded offsets⟩
    | hold name path =>
        rcases layered_calm stacking .top (files_calm compile pure_returns) path state with
          ⟨result, final, log, loaded⟩
        rcases perform_hold loaded name with ⟨kept, performed, _⟩
        exact ⟨_, _, _, performed⟩
    | invalidate layer path => cases stacking <;> cases layer <;> exact ⟨_, _, _, rfl⟩
    | edit | held | clear | census => exact ⟨_, _, _, rfl⟩
  rcases performed with ⟨answer, final, log, performed⟩
  rw [take_apply performed]

theorem performAll_returns (compile : Bytes → τ) (stacking : Stacking) (steps : List Step) :
    ∀ state : State φ τ, (performAll compile stacking steps state).outcome = .returned () := by
  induction steps using steps_induction with
  | nil =>
      intro state
      rw [performAll]
      rfl
  | cons step rest during later =>
      intro state
      have first := take_returns compile stacking step during state
      rcases ran : step.take compile stacking state with ⟨outcome, between, log⟩
      rw [ran] at first
      cases first
      rw [performAll_cons, Action.bind_apply_of_returned ran]
      exact later between

/-- What a sequence inherits from its parts holds of a history whose steps all have a property, if
it holds of each step that has it for which it holds of what happens during the step. -/
theorem Throughout.traces {compile : Bytes → τ} {stacking : Stacking} {allowed : Step → Prop}
    {relation : State φ τ → List (Event τ) → State φ τ → Prop} (sequential : Sequential relation)
    (taken : ∀ step : Step, allowed step → (performAll compile stacking step.during).Traces relation →
      (step.take compile stacking).Traces relation) {steps : List Step}
    (throughout : Throughout allowed steps) : (performAll compile stacking steps).Traces relation := by
  induction throughout with
  | nil =>
      rw [performAll]
      exact Action.Traces.pure sequential ()
  | cons first _ _ during later =>
      rw [performAll_cons]
      exact Action.Traces.bind sequential (taken _ first during) fun _ => later

theorem steps_traces {compile : Bytes → τ} {stacking : Stacking}
    {relation : State φ τ → List (Event τ) → State φ τ → Prop} (sequential : Sequential relation)
    (taken : ∀ step : Step, (performAll compile stacking step.during).Traces relation →
      (step.take compile stacking).Traces relation) (steps : List Step) :
    (performAll compile stacking steps).Traces relation :=
  (throughout_of_all steps fun _ => trivial).traces sequential fun step _ => taken step

end Offsets

end SourceDiagnostics
