import SourceDiagnostics.Proofs.Offsets.Freshness

/-!
The moments of a history. Between two steps, at any depth of nesting, a history has a log so far, a
state, and steps that are still to be taken at that depth; `Reaches` lists these moments. They are
moments of the run itself: what is logged later continues the log of a moment (`Reaches.resumes`),
and every step that begins in the log of a run begins at one of them (`reaches_of_began`).
-/

namespace SourceDiagnostics.Offsets

variable {φ τ : Type} {stacking : Stacking} {layer : Layer} {path : Path} {state : State φ τ}

/-- Whether no layer that a load goes through remembers its path, so that the file has to be
read. -/
def Misses (stacking : Stacking) (layer : Layer) (path : Path) (state : State φ τ) : Prop :=
  ∀ below, below = layer ∨ layer = .top → (memo stacking below state).find? path = none

def Notes (log : List (Event τ)) : Prop :=
  ∀ event ∈ log, ∃ note, event = .noted note

theorem Notes.flat {notes : List (Event τ)} (noted : Notes notes) :
    ∀ event ∈ notes, event.change = 0 := by
  intro event member
  rcases noted event member with ⟨note, rfl⟩
  rfl

theorem Notes.single (note : Note) : Notes [(.noted note : Event τ)] :=
  fun _ member => ⟨note, List.mem_singleton.mp member⟩

theorem Notes.append {first last : List (Event τ)} (front : Notes first) (back : Notes last) :
    Notes (first ++ last) := by
  intro event member
  exact (List.mem_append.mp member).elim (front event) (back event)

/-! A layer of memory adds no more than notes to what the provider below it does. -/

theorem remembering_of_missing (slot : Slot (State φ τ) (Memo τ))
    {inner : Provider (Event τ) (State φ τ) τ} {result : Except FileError τ}
    {between : State φ τ} {log : List (Event τ)} (missing : (slot.get state).find? path = none)
    (loaded : inner.load path state = ⟨.ofExcept result, between, log⟩) :
    ∃ final notes, (Provider.remembering slot inner).load path state =
      ⟨.ofExcept result, final, log ++ notes⟩ ∧ Notes notes := by
  rw [Provider.load_remembering_of_loaded loaded, missing]
  cases result with
  | error error => exact ⟨_, [], by rw [List.append_nil], List.forall_mem_nil _⟩
  | ok table =>
      dsimp only
      split
      · exact ⟨_, [], by rw [List.append_nil], List.forall_mem_nil _⟩
      · exact ⟨_, _, rfl, .single _⟩

theorem remembering_of_found (slot : Slot (State φ τ) (Memo τ)) {table : τ}
    (inner : Provider (Event τ) (State φ τ) τ) (found : (slot.get state).find? path = some table) :
    (Provider.remembering slot inner).load path state =
      ⟨.ofExcept (.ok table), state, [.noted (.tableRemembered path)]⟩ := by
  simp only [Provider.remembering, Action.bind_apply, Action.gets_apply, found]
  rfl

theorem layered_of_misses {base : Provider (Event τ) (State φ τ) τ} {result : Except FileError τ}
    {between : State φ τ} {log : List (Event τ)} (misses : Misses stacking layer path state)
    (loaded : base.load path state = ⟨.ofExcept result, between, log⟩) :
    ∃ final notes, (layered stacking layer base).load path state =
      ⟨.ofExcept result, final, log ++ notes⟩ ∧ Notes notes := by
  cases stacking with
  | single => cases layer <;> exact remembering_of_missing State.lowerSlot (misses _ (.inl rfl)) loaded
  | double =>
      cases layer with
      | bottom => exact remembering_of_missing State.lowerSlot (misses .bottom (.inl rfl)) loaded
      | top =>
          rcases remembering_of_missing State.lowerSlot (misses .bottom (.inr rfl)) loaded with
            ⟨middle, notes, lower, noted⟩
          rcases remembering_of_missing State.upperSlot (misses .top (.inl rfl)) lower with
            ⟨final, notes', upper, noted'⟩
          exact ⟨final, notes ++ notes', by rw [← List.append_assoc]; exact upper,
            noted.append noted'⟩

theorem layered_of_not_misses (base : Provider (Event τ) (State φ τ) τ)
    (remembered : ¬ Misses stacking layer path state) :
    ∃ table final notes, (layered stacking layer base).load path state =
      ⟨.ofExcept (.ok table), final, notes⟩ ∧ Notes notes := by
  have lower {table : τ} (found : state.lower.find? path = some table) :=
    remembering_of_found State.lowerSlot base found
  cases stacking with
  | single =>
      cases found : state.lower.find? path with
      | some table => cases layer <;> exact ⟨table, _, _, lower found, .single _⟩
      | none =>
          refine absurd (fun below _ => ?_) remembered
          cases below <;> exact found
  | double =>
      cases found : state.lower.find? path with
      | some table =>
          cases layer with
          | bottom => exact ⟨table, _, _, lower found, .single _⟩
          | top =>
              cases found' : state.upper.find? path with
              | some table' => exact ⟨table', _, _, remembering_of_found State.upperSlot _ found', .single _⟩
              | none =>
                  rcases remembering_of_missing State.upperSlot found' (lower found) with
                    ⟨final, notes, upper, noted⟩
                  exact ⟨table, final, _, upper, (Notes.single _).append noted⟩
      | none =>
          cases layer with
          | bottom =>
              refine absurd (fun below within => ?_) remembered
              rcases within with rfl | top
              · exact found
              · cases top
          | top =>
              cases found' : state.upper.find? path with
              | some table' => exact ⟨table', _, _, remembering_of_found State.upperSlot _ found', .single _⟩
              | none =>
                  refine absurd (fun below _ => ?_) remembered
                  cases below
                  · exact found'
                  · exact found

variable [FileStore φ]

/-! Only a load that reads a file has other steps during it. -/

/-- What a step comes to: it has no other steps during it, or it is a load that reads a file, and
what is logged is that reading, then what happens during it, and then notes. -/
inductive Performed (compile : Bytes → τ) (stacking : Stacking) (step : Step)
    (state : State φ τ) : Ran (Event τ) (State φ τ) Empty (Answer τ) → Prop
  | alone (answer : Answer τ) (final : State φ τ) (log : List (Event τ))
      (flat : ∀ event ∈ log, event.change = 0) :
      Performed compile stacking step state ⟨.returned answer, final, log⟩
  | reading {layer : Layer} {path : Path} {offsets : List Offset} {during : List Step}
      (same : step = .load layer path offsets during) (misses : Misses stacking layer path state)
      (final : State φ τ) (notes : List (Event τ)) (noted : Notes notes) :
      Performed compile stacking step state
        ⟨.returned (.ofExcept ((FileStore.read state.files path).map compile)), final,
          .read path ((FileStore.read state.files path).map compile) ::
            ((performAll compile stacking during { state with reads := state.reads + 1 }).log ++
              notes)⟩

theorem load_files_of_returns (compile : Bytes → τ) {during : Action (Event τ) (State φ τ) Empty Unit}
    (returns : ∀ state, (during state).outcome = .returned ()) (path : Path) (state : State φ τ) :
    (files compile during).load path state =
      ⟨.ofExcept ((FileStore.read state.files path).map compile),
        (during { state with reads := state.reads + 1 }).state,
        .read path ((FileStore.read state.files path).map compile) ::
          (during { state with reads := state.reads + 1 }).log⟩ := by
  rw [load_files]
  dsimp only
  rw [returns]

theorem perform_of_misses (compile : Bytes → τ) (step : Step)
    (asks : step.target? = some (layer, path)) (misses : Misses stacking layer path state) :
    ∃ final notes, step.perform compile stacking state =
      ⟨.returned (.ofExcept ((FileStore.read state.files path).map compile)), final,
        .read path ((FileStore.read state.files path).map compile) ::
          ((performAll compile stacking step.during { state with reads := state.reads + 1 }).log ++
            notes)⟩ ∧ Notes notes := by
  rcases layered_of_misses misses (load_files_of_returns compile
    (performAll_returns compile stacking step.during) path state) with ⟨final, notes, loaded, noted⟩
  rcases perform_asked asks loaded with ⟨kept, performed, _⟩
  exact ⟨kept, notes, performed, noted⟩

theorem perform_of_not_misses (compile : Bytes → τ) (step : Step)
    (asks : step.target? = some (layer, path)) (remembered : ¬ Misses stacking layer path state) :
    ∃ table final notes, step.perform compile stacking state =
      ⟨.returned (.table table), final, notes⟩ ∧ Notes notes := by
  rcases layered_of_not_misses (files compile (performAll compile stacking step.during))
    remembered with ⟨table, final, notes, loaded, noted⟩
  rcases perform_asked asks loaded with ⟨kept, performed, _⟩
  exact ⟨table, kept, notes, performed, noted⟩

theorem step_performed (compile : Bytes → τ) (stacking : Stacking) (step : Step)
    (state : State φ τ) :
    Performed compile stacking step state (step.perform compile stacking state) := by
  cases step with
  | load layer path offsets during =>
      by_cases misses : Misses stacking layer path state
      · rcases perform_of_misses compile (.load layer path offsets during) rfl misses with
          ⟨final, notes, performed, noted⟩
        rw [performed]
        exact .reading rfl misses final notes noted
      · rcases perform_of_not_misses compile (.load layer path offsets during) rfl misses with
          ⟨table, final, notes, performed, noted⟩
        rw [performed]
        exact .alone _ final notes noted.flat
  | hold name path =>
      by_cases misses : Misses stacking .top path state
      · rcases perform_of_misses compile (.hold name path) rfl misses with
          ⟨final, notes, performed, noted⟩
        have alone : (Step.hold name path).during = [] := rfl
        rw [performed, alone, performAll]
        refine .alone _ final _ fun event member => ?_
        rcases List.mem_cons.mp member with rfl | later
        · rfl
        · exact noted.flat event later
      · rcases perform_of_not_misses compile (.hold name path) rfl misses with
          ⟨table, final, notes, performed, noted⟩
        rw [performed]
        exact .alone _ final notes noted.flat
  | invalidate issued path =>
      cases stacking <;> cases issued <;>
        exact .alone .nothing _ [.forgotten path] (List.forall_mem_singleton.mpr rfl)
  | edit | held | clear | census => exact .alone _ _ [] (List.forall_mem_nil _)

theorem performAll_cons_apply (compile : Bytes → τ) (stacking : Stacking) (step : Step)
    (rest : List Step) (state : State φ τ) :
    performAll compile stacking (step :: rest) state =
      ⟨.returned (), (performAll compile stacking rest (step.take compile stacking state).state).state,
        (step.take compile stacking state).log ++
          (performAll compile stacking rest (step.take compile stacking state).state).log⟩ := by
  have first := take_returns compile stacking step (performAll_returns compile stacking _) state
  rcases taken : step.take compile stacking state with ⟨outcome, between, log⟩
  rw [taken] at first
  cases first
  rw [performAll_cons, Action.bind_apply_of_returned taken,
    performAll_returns compile stacking rest between]

/-! The moments of a history. -/

/-- A moment that a history reaches: the log up to there, the steps still to be taken at that
depth, and the state. Steps during a load are reached once its file has been read. -/
inductive Reaches (compile : Bytes → τ) (stacking : Stacking) :
    List Step → State φ τ → List (Event τ) → List Step → State φ τ → Prop
  | here (steps : List Step) (state : State φ τ) :
      Reaches compile stacking steps state [] steps state
  | within {layer : Layer} {path : Path} {offsets : List Offset} {during rest left : List Step}
      {state moment : State φ τ} {log : List (Event τ)} (misses : Misses stacking layer path state)
      (inside : Reaches compile stacking during { state with reads := state.reads + 1 } log left
        moment) :
      Reaches compile stacking (.load layer path offsets during :: rest) state
        (.began (.load layer path offsets during) ::
          .read path ((FileStore.read state.files path).map compile) :: log) left moment
  | beyond {step : Step} {rest left : List Step} {state moment : State φ τ} {log : List (Event τ)}
      (later : Reaches compile stacking rest (step.take compile stacking state).state log left
        moment) :
      Reaches compile stacking (step :: rest) state
        ((step.take compile stacking state).log ++ log) left moment

variable {compile : Bytes → τ} {steps left : List Step} {log : List (Event τ)} {moment : State φ τ}

theorem Reaches.resumes (reached : Reaches compile stacking steps state log left moment) :
    ∃ later, (performAll compile stacking steps state).log =
      log ++ ((performAll compile stacking left moment).log ++ later) := by
  induction reached with
  | here steps state => exact ⟨[], by simp⟩
  | @within layer path offsets during rest left state moment log misses inside induction =>
      rcases induction with ⟨later, continued⟩
      rcases layered_of_misses misses
        (load_files_of_returns compile (performAll_returns compile stacking during) path state) with
        ⟨final, notes, loaded, noted⟩
      rw [performAll_cons_apply, take_apply (perform_load loaded offsets), continued]
      refine ⟨later ++ (notes ++ (.ended (.load layer path offsets during)
        (.ofExcept ((FileStore.read state.files path).map compile)) ::
          (performAll compile stacking rest final).log)), ?_⟩
      simp only [List.cons_append, List.append_assoc, List.nil_append]
  | @beyond step rest left state moment log later induction =>
      rcases induction with ⟨tail, continued⟩
      rw [performAll_cons_apply]
      exact ⟨tail, by simp [continued]⟩

/-- What a sequence inherits from its parts holds up to every moment of a history whose steps all
have a property, if it holds of each step that has it for which it holds of what happens during the
step, and of the beginning of a load that reads its file. -/
theorem Reaches.traces_of_throughout {allowed : Step → Prop}
    {relation : State φ τ → List (Event τ) → State φ τ → Prop} (sequential : Sequential relation)
    (taken : ∀ step : Step, allowed step → (performAll compile stacking step.during).Traces relation →
      (step.take compile stacking).Traces relation)
    (entered : ∀ layer path offsets during state, relation state
      [.began (.load layer path offsets during),
        .read path ((FileStore.read state.files path).map compile)]
      { state with reads := state.reads + 1 })
    (reached : Reaches compile stacking steps state log left moment)
    (throughout : Throughout allowed steps) : relation state log moment := by
  induction reached with
  | here steps state => exact sequential.refl state
  | within misses _ induction =>
      cases throughout with
      | cons _ inside _ => exact sequential.trans (entered _ _ _ _ _) (induction inside)
  | beyond _ induction =>
      cases throughout with
      | cons first inside later =>
          have taken := taken _ first (inside.traces sequential taken)
          exact sequential.trans (taken _) (induction later)

theorem Reaches.traces {relation : State φ τ → List (Event τ) → State φ τ → Prop}
    (sequential : Sequential relation)
    (taken : ∀ step : Step, (step.take compile stacking).Traces relation)
    (entered : ∀ layer path offsets during state, relation state
      [.began (.load layer path offsets during),
        .read path ((FileStore.read state.files path).map compile)]
      { state with reads := state.reads + 1 })
    (reached : Reaches compile stacking steps state log left moment) :
    relation state log moment :=
  reached.traces_of_throughout sequential (fun step _ _ => taken step) entered
    (throughout_of_all steps fun _ => trivial)

theorem reaches_after (compile : Bytes → τ) (stacking : Stacking) (front back : List Step)
    (state : State φ τ) :
    Reaches compile stacking (front ++ back) state (performAll compile stacking front state).log
      back (performAll compile stacking front state).state := by
  induction front generalizing state with
  | nil =>
      rw [performAll]
      exact .here back state
  | cons step rest induction =>
      rw [performAll_cons_apply]
      exact .beyond (induction _)

private theorem not_began_of_flat {log before after : List (Event τ)} {step : Step}
    (flat : ∀ event ∈ log, event.change = 0) (split : log = before ++ .began step :: after) :
    False := by
  have change := flat (.began step) (by rw [split]; simp)
  cases change

private theorem reaches_of_began_inside {step first : Step} {rest : List Step}
    {state : State φ τ} {ran : Ran (Event τ) (State φ τ) Empty (Answer τ)}
    {earlier after : List (Event τ)} (performed : Performed compile stacking first state ran)
    (during : ∀ {state : State φ τ} {before after : List (Event τ)},
      (performAll compile stacking first.during state).log = before ++ .began step :: after →
        ∃ left moment, Reaches compile stacking first.during state before (step :: left) moment)
    (split : ran.log = earlier ++ .began step :: after) :
    ∃ left moment, Reaches compile stacking (first :: rest) state (.began first :: earlier)
      (step :: left) moment := by
  cases performed with
  | alone answer final log flat => exact (not_began_of_flat flat split).elim
  | reading same misses final notes noted =>
      subst same
      rcases List.cons_eq_append_iff.mp split with ⟨_, started⟩ | ⟨earlier', rfl, inside⟩
      · cases started
      rcases cons_of_append inside with ⟨rest', within, _⟩ | ⟨_, _, late⟩
      · rcases during within with ⟨left, moment, reached⟩
        exact ⟨left, moment, .within misses reached⟩
      · exact (not_began_of_flat noted.flat late).elim

/-- Every step that begins in the course of a history begins at a moment that the history
reaches. -/
theorem reaches_of_began (compile : Bytes → τ) (stacking : Stacking) {step : Step}
    (steps : List Step) :
    ∀ {state : State φ τ} {before after : List (Event τ)},
      (performAll compile stacking steps state).log = before ++ .began step :: after →
        ∃ left moment, Reaches compile stacking steps state before (step :: left) moment := by
  induction steps using steps_induction with
  | nil =>
      intro state before after logged
      rw [performAll] at logged
      cases before <;> cases logged
  | cons first rest during later =>
      intro state before after logged
      rw [performAll_cons_apply] at logged
      rcases cons_of_append logged with ⟨rest', within, _⟩ | ⟨earlier, rfl, beyond⟩
      · have performed := step_performed compile stacking first state
        rcases ran : first.perform compile stacking state with ⟨outcome, final, inner⟩
        rw [ran] at performed
        obtain ⟨answer, rfl⟩ : ∃ answer, outcome = .returned answer := by
          cases performed <;> exact ⟨_, rfl⟩
        rw [take_apply ran] at within
        rcases List.cons_eq_append_iff.mp within with ⟨rfl, started⟩ | ⟨earlier, rfl, inside⟩
        · injection started with began _
          injection began with same
          subst same
          exact ⟨rest, state, .here _ _⟩
        rcases cons_of_append inside with ⟨_, split, _⟩ | ⟨earlier', _, ended⟩
        · exact reaches_of_began_inside performed during split
        · rcases List.cons_eq_append_iff.mp ended with ⟨_, ended⟩ | ⟨_, _, ended⟩
          · cases ended
          · exact (List.append_ne_nil_of_right_ne_nil _ (List.cons_ne_nil _ _) ended.symm).elim
      · rcases later beyond with ⟨left, moment, reached⟩
        exact ⟨left, moment, .beyond reached⟩

end SourceDiagnostics.Offsets
