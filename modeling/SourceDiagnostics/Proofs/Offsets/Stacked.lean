import SourceDiagnostics.Files.Memory
import SourceDiagnostics.Proofs.Offsets.CurrentTables
import SourceDiagnostics.Proofs.Offsets.Moments

/-!
Two layers of memory do what one does. If all steps act on the upper layer, and both layers are
cleared whenever one layer would be, then the layers always remember the same, with the same
generation, so they decide alike, also about loads that are under way. `State.doubled` is the state
with a second layer like the first, and a history over two layers goes from doubled states to
doubled states (`Stacked.performAll_agree`). What is shown to the outside is the same.
-/

namespace SourceDiagnostics.Offsets

variable {φ τ : Type}

/-- Something that a history shows to the outside: a step was taken and gave something to whoever
took it, or something was asked of the files. -/
inductive Shown (τ : Type) where
  | taken
  | result (answer : Answer τ)
  | read (path : Path) (result : Except FileError τ)
  | forgotten (path : Path)

def Event.shown? : Event τ → Option (Shown τ)
  | .began (.clear _) | .ended (.clear _) _ => none
  | .began _ => some .taken
  | .ended _ answer => some (.result answer)
  | .read path result => some (.read path result)
  | .forgotten path => some (.forgotten path)
  | .noted _ => none

def shown (log : List (Event τ)) : List (Shown τ) :=
  log.filterMap Event.shown?

@[simp] theorem shown_append (first last : List (Event τ)) :
    shown (first ++ last) = shown first ++ shown last :=
  List.filterMap_append

theorem shown_take (step : Step) (log : List (Event τ)) (answer : Answer τ) :
    shown (.began step :: (log ++ [.ended step answer])) =
      shown [(.began step : Event τ)] ++ shown log ++ shown [.ended step answer] := by
  rw [← shown_append, ← shown_append]
  rfl

theorem shown_entered (layer : Layer) (path : Path) (offsets : List Offset) (during : List Step)
    (result : Except FileError τ) (log : List (Event τ)) :
    shown (.began (.load layer path offsets during) :: .read path result :: log) =
      .taken :: .read path result :: shown log :=
  rfl

/-- The same step over one layer and over two, where it acts on the upper one. A census may ask
either. -/
inductive Raised : Step → Step → Prop
  | edit (edit : Edit) : Raised (.edit edit) (.edit edit)
  | load (layer : Layer) (path : Path) (offsets : List Offset) (during during' : List Step) :
      Raised (.load layer path offsets during) (.load .top path offsets during')
  | hold (name : String) (path : Path) : Raised (.hold name path) (.hold name path)
  | held (name : String) (offsets : List Offset) : Raised (.held name offsets) (.held name offsets)
  | invalidate (layer : Layer) (path : Path) :
      Raised (.invalidate layer path) (.invalidate .top path)
  | census (layer asked : Layer) : Raised (.census layer) (.census asked)

/-- The same steps over one layer and over two. A clear of the one layer is a clear of both, one
right after the other. -/
inductive Stacked : List Step → List Step → Prop
  | nil : Stacked [] []
  | cons {step step' : Step} {rest rest' : List Step} (raised : Raised step step')
      (inside : Stacked step.during step'.during) (later : Stacked rest rest') :
      Stacked (step :: rest) (step' :: rest')
  | clear {first second : Layer} {rest rest' : List Step} (layer : Layer) (both : first ≠ second)
      (later : Stacked rest rest') :
      Stacked (.clear layer :: rest) (.clear first :: .clear second :: rest')

theorem exists_stacked (steps : List Step) : ∃ steps', Stacked steps steps' := by
  induction steps using steps_induction with
  | nil => exact ⟨[], .nil⟩
  | cons step rest during later =>
      rcases during with ⟨during', inside⟩
      rcases later with ⟨rest', later⟩
      cases step with
      | load layer path offsets during =>
          exact ⟨_, .cons (.load layer path offsets during during') inside later⟩
      | edit edit => exact ⟨_, .cons (.edit edit) .nil later⟩
      | hold name path => exact ⟨_, .cons (.hold name path) .nil later⟩
      | held name offsets => exact ⟨_, .cons (.held name offsets) .nil later⟩
      | invalidate layer path => exact ⟨_, .cons (.invalidate layer path) .nil later⟩
      | census layer => exact ⟨_, .cons (.census layer layer) .nil later⟩
      | clear layer =>
          have both : Layer.top ≠ .bottom := Layer.noConfusion
          exact ⟨_, .clear layer both later⟩

/-! A state over one layer gets a second layer that is like it, and actions keep the two alike. -/

def State.doubled (state : State φ τ) : State φ τ :=
  { state with upper := state.lower }

structure Agree {ε α : Type} (one two : Ran (Event τ) (State φ τ) ε α) : Prop where
  outcome : two.outcome = one.outcome
  state : two.state = one.state.doubled
  shown : shown two.log = shown one.log

theorem Agree.exists_log {ε α : Type} {outcome : Outcome ε α} {state : State φ τ}
    {log : List (Event τ)} {two : Ran (Event τ) (State φ τ) ε α}
    (agree : Agree ⟨outcome, state, log⟩ two) :
    ∃ log', two = ⟨outcome, state.doubled, log'⟩ ∧ Offsets.shown log' = Offsets.shown log := by
  rcases two with ⟨outcome', state', log'⟩
  obtain rfl : outcome' = outcome := agree.outcome
  obtain rfl : state' = state.doubled := agree.state
  exact ⟨log', rfl, agree.shown⟩

theorem layered_agree {one two : Provider (Event τ) (State φ τ) τ} (layer : Layer) {path : Path}
    {state : State φ τ} (calm : one.Calm)
    (agree : Agree (one.load path state) (two.load path state.doubled)) :
    Agree ((layered .single layer one).load path state)
      ((layered .double .top two).load path state.doubled) := by
  rcases calm path state with ⟨result, between, log, loaded⟩
  rw [loaded] at agree
  rcases agree.exists_log with ⟨log', ran, logs⟩
  have singled : layered .single layer one = .remembering State.lowerSlot one := by
    cases layer <;> rfl
  have doubled : layered .double .top two =
      .remembering State.upperSlot (.remembering State.lowerSlot two) := rfl
  rw [singled, doubled, Provider.load_remembering_of_loaded loaded]
  cases found : (State.lowerSlot.get state).find? path with
  | some table =>
      have found' : (State.upperSlot.get state.doubled).find? path = some table := found
      rw [remembering_of_found State.upperSlot _ found']
      exact ⟨rfl, rfl, rfl⟩
  | none =>
      have missing : (State.lowerSlot.get state.doubled).find? path = none := found
      have missing' : (State.upperSlot.get state.doubled).find? path = none := found
      have lower : (Provider.remembering State.lowerSlot two).load path state.doubled = _ :=
        Provider.load_remembering_of_loaded ran
      rw [missing] at lower
      cases result with
      | error error =>
          rw [Provider.load_remembering_of_loaded lower, missing']
          exact ⟨rfl, rfl, logs⟩
      | ok table =>
          dsimp only at lower ⊢
          by_cases unmoved : (State.lowerSlot.get between).generation =
            (State.lowerSlot.get state).generation
          · have unmoved_lower : (State.lowerSlot.get between.doubled).generation =
              (State.lowerSlot.get state.doubled).generation := unmoved
            have unmoved_upper : (State.upperSlot.get (State.lowerSlot.set
                ((State.lowerSlot.get between.doubled).insert path table)
                  between.doubled)).generation =
              (State.upperSlot.get state.doubled).generation := unmoved
            rw [if_pos unmoved_lower] at lower
            rw [if_pos unmoved, Provider.load_remembering_of_loaded lower, missing']
            dsimp only
            rw [if_pos unmoved_upper]
            exact ⟨rfl, rfl, logs⟩
          · have moved_lower : (State.lowerSlot.get between.doubled).generation ≠
              (State.lowerSlot.get state.doubled).generation := unmoved
            have moved_upper : (State.upperSlot.get between.doubled).generation ≠
              (State.upperSlot.get state.doubled).generation := unmoved
            rw [if_neg moved_lower] at lower
            rw [if_neg unmoved, Provider.load_remembering_of_loaded lower, missing']
            dsimp only
            rw [if_neg moved_upper]
            have quiet : shown [(NoteLog.note (.tableOutdated path) : Event τ)] = [] := rfl
            refine ⟨rfl, rfl, ?_⟩
            simp only [shown_append, logs, quiet, List.append_nil]

variable [FileStore φ]

theorem files_agree (compile : Bytes → τ) {one two : Action (Event τ) (State φ τ) Empty Unit}
    (agree : ∀ state, Agree (one state) (two state.doubled)) (path : Path) (state : State φ τ) :
    Agree ((files compile one).load path state) ((files compile two).load path state.doubled) := by
  have happens := agree { state with reads := state.reads + 1 }
  have counted : { state.doubled with reads := state.doubled.reads + 1 } =
    State.doubled { state with reads := state.reads + 1 } := rfl
  rw [load_files, load_files, counted]
  constructor
  · dsimp only
    rw [happens.outcome]
    rfl
  · exact happens.state
  · exact congrArg (_ :: ·) happens.shown

theorem take_agree (compile : Bytes → τ) {step step' : Step} (raised : Raised step step')
    (happens : ∀ state : State φ τ, Agree (performAll compile .single step.during state)
      (performAll compile .double step'.during state.doubled)) (state : State φ τ) :
    Agree (step.take compile .single state) (step'.take compile .double state.doubled) := by
  cases raised with
  | edit edit => exact ⟨rfl, rfl, rfl⟩
  | held name offsets => exact ⟨rfl, rfl, rfl⟩
  | census layer asked => cases layer <;> cases asked <;> exact ⟨rfl, rfl, rfl⟩
  | invalidate layer path => cases layer <;> exact ⟨rfl, rfl, rfl⟩
  | load layer path offsets during during' =>
      simp only [Step.during] at happens
      have calm := files_calm compile (performAll_returns (φ := φ) compile .single during)
      have agree := layered_agree layer calm (files_agree compile happens path state)
      rcases layered_calm .single layer calm path state with ⟨result, final, log, loaded⟩
      rw [loaded] at agree
      rcases agree.exists_log with ⟨log', loaded', logs⟩
      rw [take_apply (perform_load loaded offsets), take_apply (perform_load loaded' offsets)]
      exact ⟨rfl, rfl, by simp only [shown_take, logs]; rfl⟩
  | hold name path =>
      have calm := files_calm (φ := φ) compile pure_returns
      have nothing (state : State φ τ) : Agree ((pure () : Action (Event τ) _ Empty Unit) state)
          ((pure () : Action (Event τ) _ Empty Unit) state.doubled) := ⟨rfl, rfl, rfl⟩
      have agree := layered_agree .top calm (files_agree compile nothing path state)
      rcases layered_calm .single .top calm path state with ⟨result, final, log, loaded⟩
      rw [loaded] at agree
      rcases agree.exists_log with ⟨log', loaded', logs⟩
      rw [take_apply (perform_hold_of_loaded loaded name),
        take_apply (perform_hold_of_loaded loaded' name)]
      refine ⟨rfl, ?_, by simp only [shown_take, logs]⟩
      cases result <;> rfl

theorem take_clear_twice (compile : Bytes → τ) (layer : Layer) {first second : Layer}
    (both : first ≠ second) (state : State φ τ) :
    let cleared := (Step.clear layer).take compile .single state
    let half := (Step.clear first).take compile .double state.doubled
    let whole := (Step.clear second).take compile .double half.state
    whole.state = cleared.state.doubled ∧ shown cleared.log = [] ∧
      half.log = [.began (.clear first), .ended (.clear first) .nothing] ∧
      shown half.log = [] ∧ shown whole.log = [] := by
  cases layer <;> cases first <;> cases second <;>
    first
      | exact absurd rfl both
      | exact ⟨rfl, rfl, rfl, rfl, rfl⟩

theorem Stacked.performAll_agree (compile : Bytes → τ) {steps steps' : List Step}
    (stacked : Stacked steps steps') : ∀ state : State φ τ,
      Agree (performAll compile .single steps state)
        (performAll compile .double steps' state.doubled) := by
  induction stacked with
  | nil =>
      intro state
      rw [performAll, performAll]
      exact ⟨rfl, rfl, rfl⟩
  | @cons step step' rest rest' raised inside later during continued =>
      intro state
      have first := take_agree compile raised during state
      have last := continued (step.take compile .single state).state
      rw [← first.state] at last
      rw [performAll_cons_apply, performAll_cons_apply]
      refine ⟨rfl, last.state, ?_⟩
      simp only [shown_append, first.shown, last.shown]
  | @clear first second rest rest' layer both later continued =>
      intro state
      rcases take_clear_twice compile layer both state with ⟨same, quiet, _, quiet', quiet''⟩
      have last := continued ((Step.clear layer).take compile .single state).state
      rw [← same] at last
      rw [performAll_cons_apply, performAll_cons_apply, performAll_cons_apply]
      refine ⟨rfl, last.state, ?_⟩
      simp only [shown_append, quiet, quiet', quiet'', last.shown, List.nil_append]

omit [FileStore φ] in
/-! Moments over one layer and over two. -/

theorem misses_doubled_iff {layer : Layer} {path : Path} {state : State φ τ} :
    Misses .double .top path state.doubled ↔ Misses .single layer path state := by
  constructor
  · exact fun misses below _ => by cases below <;> exact misses .bottom (.inr rfl)
  · intro misses below _
    have missing := misses layer (.inl rfl)
    cases below <;> cases layer <;> exact missing

/-- A moment over one layer and a moment over two at which everything is alike: what was shown, the
steps that are left, the files, the tables put aside, and every layer. -/
structure Alike (log log' : List (Event τ)) (left left' : List Step)
    (moment moment' : State φ τ) : Prop where
  shown : shown log' = shown log
  left : Stacked left left'
  files : moment'.files = moment.files
  reads : moment'.reads = moment.reads
  held : moment'.held = moment.held
  memos : ∀ layer layer', memo .double layer' moment' = memo .single layer moment

omit [FileStore φ] in
theorem Alike.of_doubled {log log' : List (Event τ)} {left left' : List Step}
    (same : Offsets.shown log' = Offsets.shown log) (stacked : Stacked left left')
    (moment : State φ τ) : Alike log log' left left' moment moment.doubled where
  shown := same
  left := stacked
  files := rfl
  reads := rfl
  held := rfl
  memos layer layer' := by cases layer <;> cases layer' <;> rfl

omit [FileStore φ] in
theorem Alike.upper {log log' : List (Event τ)} {left left' : List Step}
    {moment moment' : State φ τ} (alike : Alike log log' left left' moment moment') :
    moment'.upper = moment.lower :=
  alike.memos .bottom .top

theorem Stacked.reaches_double (compile : Bytes → τ) {steps steps' : List Step}
    (stacked : Stacked steps steps') : ∀ {state moment : State φ τ} {log : List (Event τ)}
      {left : List Step}, Reaches compile .single steps state log left moment →
        ∃ log' left', Reaches compile .double steps' state.doubled log' left' moment.doubled ∧
          Stacked left left' ∧ shown log' = shown log := by
  induction stacked with
  | nil =>
      intro state moment log left reached
      cases reached
      exact ⟨[], [], .here [] _, .nil, rfl⟩
  | @cons step step' rest rest' raised inside later during continued =>
      intro state moment log left reached
      cases reached with
      | here => exact ⟨[], _, .here _ _, .cons raised inside later, rfl⟩
      | within misses within =>
          cases raised
          rcases during within with ⟨log', left', reached', stacked', same⟩
          refine ⟨_, left', .within (misses_doubled_iff.mpr misses) reached', stacked', ?_⟩
          rw [shown_entered, shown_entered, same]
          rfl
      | beyond beyond =>
          have taken := take_agree compile raised (inside.performAll_agree compile) state
          rcases continued beyond with ⟨log', left', reached', stacked', same⟩
          rw [← taken.state] at reached'
          refine ⟨_, left', .beyond reached', stacked', ?_⟩
          rw [shown_append, shown_append, taken.shown, same]
  | @clear first second rest rest' layer both later continued =>
      intro state moment log left reached
      rcases take_clear_twice compile layer both state with ⟨whole, quiet, _, quiet', quiet''⟩
      cases reached with
      | here => exact ⟨[], _, .here _ _, .clear layer both later, rfl⟩
      | beyond beyond =>
          rcases continued beyond with ⟨log', left', reached', stacked', same⟩
          rw [← whole] at reached'
          refine ⟨_, left', .beyond (.beyond reached'), stacked', ?_⟩
          simp only [shown_append, quiet, quiet', quiet'', same, List.nil_append]

/-- A moment between the two clears that stand for a single one. -/
def Halfway (log : List (Event τ)) (left : List Step) : Prop :=
  ∃ before first second rest, first ≠ second ∧ left = .clear second :: rest ∧
    log = before ++ [.began (.clear first), .ended (.clear first) .nothing]

omit [FileStore φ] in
theorem Halfway.prepend {log : List (Event τ)} {left : List Step} (halfway : Halfway log left)
    (earlier : List (Event τ)) : Halfway (earlier ++ log) left := by
  rcases halfway with ⟨before, first, second, rest, both, next, rfl⟩
  exact ⟨earlier ++ before, first, second, rest, both, next, (List.append_assoc _ _ _).symm⟩

theorem Stacked.reaches_single (compile : Bytes → τ) {steps steps' : List Step}
    (stacked : Stacked steps steps') : ∀ {state moment' : State φ τ} {log' : List (Event τ)}
      {left' : List Step}, Reaches compile .double steps' state.doubled log' left' moment' →
        (∃ log left moment, Reaches compile .single steps state log left moment ∧
          moment' = moment.doubled ∧ Stacked left left' ∧ shown log' = shown log) ∨
        Halfway log' left' := by
  induction stacked with
  | nil =>
      intro state moment' log' left' reached
      cases reached
      exact .inl ⟨[], [], _, .here [] _, rfl, .nil, rfl⟩
  | @cons step step' rest rest' raised inside later during continued =>
      intro state moment' log' left' reached
      cases reached with
      | here => exact .inl ⟨[], _, _, .here _ _, rfl, .cons raised inside later, rfl⟩
      | within misses within =>
          cases raised with
          | load layer path offsets during' =>
              have entered : Reaches compile .double _
                (State.doubled { state with reads := state.reads + 1 }) _ left' moment' := within
              rcases during entered with ⟨log, left, moment, reached', same⟩ | halfway
              · rcases same with ⟨doubled, stacked', same⟩
                refine .inl ⟨_, left, moment, .within (misses_doubled_iff.mp misses) reached',
                  doubled, stacked', ?_⟩
                rw [shown_entered, shown_entered, same]
                rfl
              · exact .inr (halfway.prepend [_, _])
      | beyond beyond =>
          have taken := take_agree compile raised (inside.performAll_agree compile) state
          rw [taken.state] at beyond
          rcases continued beyond with ⟨log, left, moment, reached', same⟩ | halfway
          · rcases same with ⟨doubled, stacked', same⟩
            refine .inl ⟨_, left, moment, .beyond reached', doubled, stacked', ?_⟩
            rw [shown_append, shown_append, taken.shown, same]
          · exact .inr (halfway.prepend _)
  | @clear first second rest rest' layer both later continued =>
      intro state moment' log' left' reached
      rcases take_clear_twice compile layer both state with
        ⟨whole, quiet, half, quiet', quiet''⟩
      cases reached with
      | here => exact .inl ⟨[], _, _, .here _ _, rfl, .clear layer both later, rfl⟩
      | beyond beyond =>
          cases beyond with
          | here => exact .inr ⟨[], first, second, rest', both, rfl, by rw [half]; rfl⟩
          | beyond beyond =>
              rw [whole] at beyond
              rcases continued beyond with ⟨log, left, moment, reached', same⟩ | halfway
              · rcases same with ⟨doubled, stacked', same⟩
                refine .inl ⟨_, left, moment, .beyond reached', doubled, stacked', ?_⟩
                simp only [shown_append, quiet, quiet', quiet'', same, List.nil_append]
              · exact .inr ((halfway.prepend _).prepend _)

/-- Two layers of memory do what one does. Whatever the steps, at every moment over one layer there
is a moment over two at which everything is alike, and the other way around unless only one of the
two layers is cleared yet; so every step has the same result, and the same is asked of the files in
the same order. -/
theorem two_layers_do_what_one_does (compile : Bytes → τ) (files : φ) {steps steps' : List Step}
    (stacked : Stacked steps steps') :
    let start : State φ τ := ⟨files, 0, {}, {}, []⟩
    (∀ log left moment, Reaches compile .single steps start log left moment →
      ∃ log' left' moment', Reaches compile .double steps' start log' left' moment' ∧
        Alike log log' left left' moment moment') ∧
    (∀ log' left' moment', Reaches compile .double steps' start log' left' moment' →
      (∃ log left moment, Reaches compile .single steps start log left moment ∧
        Alike log log' left left' moment moment') ∨ Halfway log' left') ∧
    let one := performAll compile .single steps start
    let two := performAll compile .double steps' start
    one.outcome = .returned () ∧ two.outcome = .returned () ∧
      Alike one.log two.log [] [] one.state two.state := by
  intro start
  refine ⟨fun log left moment reached => ?_, fun log' left' moment' reached => ?_, ?_⟩
  · rcases stacked.reaches_double compile reached with ⟨log', left', reached', stacked', same⟩
    exact ⟨log', left', _, reached', .of_doubled same stacked' moment⟩
  · have doubled : Reaches compile .double steps' start.doubled log' left' moment' := reached
    rcases stacked.reaches_single compile doubled with ⟨log, left, moment, reached', same⟩ | halfway
    · rcases same with ⟨rfl, stacked', same⟩
      exact .inl ⟨log, left, moment, reached', .of_doubled same stacked' moment⟩
    · exact .inr halfway
  · have agree := stacked.performAll_agree compile start
    refine ⟨performAll_returns compile .single steps start,
      performAll_returns compile .double steps' start, ?_⟩
    have alike := Alike.of_doubled agree.shown .nil (performAll compile .single steps start).state
    rwa [← agree.state] at alike

/-- While a file is read, it is said to have changed, and is loaded once more. The load that is still
under way is outdated in both layers, and stores nothing in either. -/
theorem two_layers_do_what_one_does_when_outdated :
    let file : Path := .ofString "a"
    let during : List Step := [.invalidate .top file, .load .top file [] []]
    let steps : List Step := [.clear .bottom, .load .bottom file [] during]
    let steps' : List Step := [.clear .bottom, .clear .top, .load .top file [] during]
    let store : Memory := ⟨[], some (.file [0x61])⟩
    let start : State Memory Bytes := ⟨store, 0, {}, {}, []⟩
    let one := performAll id .single steps start
    let two := performAll id .double steps' start
    Stacked steps steps' ∧ Alike one.log two.log [] [] one.state two.state ∧
      one.state.lower = ⟨[(file.components, [0x61])], 2⟩ ∧
      two.state.upper = ⟨[(file.components, [0x61])], 2⟩ := by
  intro file during steps steps' store start one two
  have inside : Stacked during during :=
    .cons (.invalidate .top file) .nil (.cons (.load .top file [] [] []) .nil .nil)
  have stacked : Stacked steps steps' :=
    .clear .bottom Layer.noConfusion (.cons (.load .bottom file [] during during) inside .nil)
  have alike : Alike one.log two.log [] [] one.state two.state :=
    (two_layers_do_what_one_does id store stacked).right.right.right.right
  have lower : one.state.lower = ⟨[(file.components, [0x61])], 2⟩ := by decide +kernel
  exact ⟨stacked, alike, lower, alike.upper.trans lower⟩

end SourceDiagnostics.Offsets
