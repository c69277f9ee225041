import SourceDiagnostics.Files.Memory
import SourceDiagnostics.Proofs.Offsets.Places

/-!
What the upper of two layers remembers, the lower one remembers as well, if all steps act on the
upper layer. A clear of that layer does not reach the lower one, so the two may decide differently
about a load that is under way: the lower layer may then remember a table that the upper one does
not, but never the other way around, as the upper layer counts whatever the lower one counts, and
the clears besides (`Passed`).
-/

namespace SourceDiagnostics

namespace Memo

variable {τ : Type} {memo other : Memo τ}

def Includes (memo other : Memo τ) : Prop :=
  ∀ path, (other.find? path).isSome → (memo.find? path).isSome

theorem includes_empty (memo : Memo τ) : memo.Includes {} := by
  intro path found
  cases found

namespace Includes

theorem insert (includes : memo.Includes other) (path : Path) (table : τ) :
    (memo.insert path table).Includes other := by
  intro spelling found
  rw [find?_insert]
  split
  · rfl
  · exact includes spelling found

theorem insert_other {path : Path} (includes : memo.Includes other)
    (remembered : (memo.find? path).isSome) (table : τ) :
    memo.Includes (other.insert path table) := by
  intro spelling found
  rw [find?_insert] at found
  split at found
  · next equal => rwa [memo.find?_congr equal]
  · exact includes spelling found

theorem forget (includes : memo.Includes other) (path : Path) :
    (memo.forget path).Includes (other.forget path) := by
  intro spelling found
  rw [find?_forget] at found ⊢
  split at found
  · cases found
  · next different =>
    rw [if_neg different]
    exact includes spelling found

end Includes

end Memo

namespace Offsets

variable {φ τ : Type} {path : Path} {state : State φ τ}

/-- Whether a step acts on the lower of two layers through the upper one only, if at all. -/
def Step.ActsAbove : Step → Prop
  | .load layer _ _ _ | .invalidate layer _ | .clear layer => layer = .top
  | .edit _ | .hold _ _ | .held _ _ | .census _ => True

/-! What the layers count. -/

def Event.clears : Event τ → Bool
  | .ended (.clear _) _ => true
  | _ => false

def clears (log : List (Event τ)) : Nat :=
  log.countP Event.clears

/-- The upper layer was made to forget something whenever the lower one was, and for every clear
besides. -/
def Passed (log : List (Event τ)) : Prop :=
  log.countP (Event.forgets .double .top) =
    log.countP (Event.forgets .double .bottom) + clears log

namespace Passed

variable {front back inner log : List (Event τ)} {step : Step}

theorem append (first : Passed front) (last : Passed back) : Passed (front ++ back) := by
  simp only [Passed, clears, List.countP_append] at first last ⊢
  omega

theorem flat (flat : ∀ event ∈ log, event.change = 0) : Passed log := by
  have unclear : clears log = 0 := by
    rw [clears, List.countP_eq_zero]
    intro event member
    cases event with
    | ended step answer => exact absurd member (not_ended_of_flat flat)
    | began | read | forgotten | noted => exact Bool.false_ne_true
  rw [Passed, countP_forgets_of_flat flat, countP_forgets_of_flat flat, unclear]

theorem ended (above : step.ActsAbove) (answer : Answer τ) : Passed [.ended step answer] := by
  cases step with
  | invalidate layer path =>
      obtain rfl : layer = .top := above
      rfl
  | clear layer =>
      obtain rfl : layer = .top := above
      rfl
  | edit | load | hold | held | census => rfl

theorem enclose (passed : Passed inner) (above : step.ActsAbove) (answer : Answer τ) :
    Passed (.began step :: (inner ++ [.ended step answer])) := by
  have began : Passed [(.began step : Event τ)] := rfl
  exact began.append (passed.append (ended above answer))

end Passed

theorem Keeps.lower_unmoved {final : State φ τ} {log : List (Event τ)}
    (keeps : Keeps .double state log final) (passed : Passed log)
    (unmoved : final.upper.generation = state.upper.generation) :
    final.lower.generation = state.lower.generation := by
  have upper : final.upper.generation = state.upper.generation + _ := keeps.counted .top
  have lower : final.lower.generation = state.lower.generation + _ := keeps.counted .bottom
  rw [passed] at upper
  omega

/-! Loads. -/

def Included (state : State φ τ) : Prop :=
  state.lower.Includes state.upper

/-- What the upper layer relies on in a load through the lower one: that inclusion lasts, and that
a table that the upper layer may remember is remembered below. -/
structure Backed (path : Path) (state : State φ τ)
    (ran : Ran (Event τ) (State φ τ) FileError τ) : Prop where
  included : Included state → Included ran.state
  remembered : ∀ table, ran.outcome = .returned table →
    ran.state.upper.generation = state.upper.generation → (ran.state.lower.find? path).isSome

theorem lower_backed {inner : Provider (Event τ) (State φ τ) τ}
    (included : Included state → Included (inner.load path state).state)
    (together : (inner.load path state).state.upper.generation = state.upper.generation →
      (inner.load path state).state.lower.generation = state.lower.generation) :
    Backed path state ((Provider.remembering State.lowerSlot inner).load path state) := by
  have run := Provider.load_remembering State.lowerSlot inner path state
  generalize Provider.load _ path state = ran at run ⊢
  cases run with
  | hit table found => exact ⟨id, fun _ _ _ => Option.isSome_of_eq_some found⟩
  | stored table between log missing loaded unmoved =>
      rw [loaded] at included
      refine ⟨fun held => (included held).insert path table, fun _ _ _ => ?_⟩
      change ((between.lower.insert path table).find? path).isSome
      rw [Memo.find?_insert, if_pos (Setoid.refl path)]
      rfl
  | outdated table between log missing loaded moved =>
      -- What kept the table from being remembered here keeps the upper layer from it as well.
      rw [loaded] at included together
      exact ⟨included, fun _ _ unmoved => absurd (together unmoved) moved⟩
  | failed error between log missing loaded =>
      rw [loaded] at included
      exact ⟨included, nofun⟩
  | panicked message between log missing loaded =>
      rw [loaded] at included
      exact ⟨included, nofun⟩

theorem Backed.upper_included {inner : Provider (Event τ) (State φ τ) τ}
    (backed : Backed path state (inner.load path state)) (held : Included state) :
    Included ((Provider.remembering State.upperSlot inner).load path state).state := by
  have run := Provider.load_remembering State.upperSlot inner path state
  generalize Provider.load _ path state = ran at run ⊢
  cases run with
  | hit table found => exact held
  | stored table between log missing loaded unmoved =>
      rw [loaded] at backed
      exact (backed.included held).insert_other (backed.remembered table rfl unmoved) table
  | outdated table between log missing loaded moved =>
      rw [loaded] at backed
      exact backed.included held
  | failed error between log missing loaded =>
      rw [loaded] at backed
      exact backed.included held
  | panicked message between log missing loaded =>
      rw [loaded] at backed
      exact backed.included held

/-! Histories. -/

def Counted (stacking : Stacking) (state : State φ τ) (log : List (Event τ))
    (final : State φ τ) : Prop :=
  ∀ layer, (memo stacking layer final).generation =
    (memo stacking layer state).generation + log.countP (Event.forgets stacking layer)

theorem counted_sequential {stacking : Stacking} :
    Sequential (Counted stacking : State φ τ → List (Event τ) → State φ τ → Prop) where
  refl _ _ := rfl
  trans front back layer := by
    rw [back, front, List.countP_append, Nat.add_assoc]

structure KeepsIncluded (state : State φ τ) (log : List (Event τ)) (final : State φ τ) : Prop where
  passed : Passed log
  included : Included state → Included final

theorem keepsIncluded_sequential :
    Sequential (KeepsIncluded : State φ τ → List (Event τ) → State φ τ → Prop) where
  refl _ := ⟨rfl, id⟩
  trans front back := ⟨front.passed.append back.passed, back.included ∘ front.included⟩

variable [FileStore φ]

theorem layered_included (compile : Bytes → τ) {during : Action (Event τ) (State φ τ) Empty Unit}
    (keeps : during.Traces (Keeps .double)) (kept : during.Traces KeepsIncluded) (path : Path)
    (held : Included state) :
    Included ((layered .double .top (files compile during)).load path state).state := by
  let entered : State φ τ := { state with reads := state.reads + 1 }
  have reached : ((files compile during).load path state).state = (during entered).state := by
    rw [load_files]
  refine Backed.upper_included (lower_backed ?_ ?_) held
  · rw [reached]
    exact (kept entered).included
  · rw [reached]
    exact (keeps entered).lower_unmoved (kept entered).passed

theorem take_passed (compile : Bytes → τ) {step : Step} (above : step.ActsAbove)
    (inside : ∀ state : State φ τ, Passed (performAll compile .double step.during state).log)
    (state : State φ τ) : Passed (step.take compile .double state).log := by
  have performed := step_performed compile .double step state
  rcases ran : step.perform compile .double state with ⟨outcome, final, log⟩
  rw [ran] at performed
  cases performed with
  | alone answer final log flat =>
      rw [take_apply ran]
      exact (Passed.flat flat).enclose above answer
  | reading same misses final notes noted =>
      subst same
      rw [take_apply ran]
      have read (path : Path) (result : Except FileError τ) : Passed [.read path result] := rfl
      exact ((read _ _).append ((inside _).append (.flat noted.flat))).enclose above _

theorem take_included (compile : Bytes → τ) {step : Step} (above : step.ActsAbove)
    (happens : (performAll compile .double step.during :
      Action (Event τ) (State φ τ) Empty Unit).Traces KeepsIncluded) (state : State φ τ)
    (held : Included state) : Included (step.take compile .double state).state := by
  have asking {path : Path} (asks : step.target? = some (.top, path)) :
      Included (step.take compile .double state).state := by
    have kept := layered_included compile (performAll_keeps compile .double step.during) happens
      path held
    rcases layered_calm .double .top
      (files_calm compile (performAll_returns compile .double step.during)) path state with
      ⟨result, final, log, loaded⟩
    rcases perform_asked asks loaded with ⟨put_aside, performed, same⟩
    have lower : put_aside.lower = final.lower := same .bottom
    have upper : put_aside.upper = final.upper := same .top
    rw [loaded] at kept
    rw [take_apply performed, Included, lower, upper]
    exact kept
  cases step with
  | edit | held | census => exact held
  | load layer path offsets during =>
      obtain rfl : layer = .top := above
      exact asking rfl
  | hold => exact asking rfl
  | invalidate layer path =>
      obtain rfl : layer = .top := above
      exact held.forget path
  | clear layer =>
      obtain rfl : layer = .top := above
      exact Memo.includes_empty _

theorem take_keepsIncluded (compile : Bytes → τ) (step : Step) (above : step.ActsAbove)
    (happens : (performAll compile .double step.during :
      Action (Event τ) (State φ τ) Empty Unit).Traces KeepsIncluded) :
    (step.take compile .double : Action (Event τ) (State φ τ) Empty Unit).Traces KeepsIncluded :=
  fun state =>
    { passed := take_passed compile above (fun state => (happens state).passed) state
      included := take_included compile above happens state }

theorem Reaches.counted {compile : Bytes → τ} {stacking : Stacking} {steps left : List Step}
    {moment : State φ τ} {log : List (Event τ)}
    (reached : Reaches compile stacking steps state log left moment) :
    Counted stacking state log moment := by
  refine reached.traces counted_sequential (fun step state => ?_) ?_
  · exact (take_keeps compile stacking step (performAll_keeps compile stacking _) state).counted
  · intro _ _ _ _ _ layer
    cases stacking <;> cases layer <;> rfl

/-- Two layers, each with one table for a place, of which the lower one includes the upper one, and
the upper one has counted all that the lower one has, and the clears in the log besides. -/
structure Inclusive (log : List (Event τ)) (state : State φ τ) : Prop where
  included : Included state
  lower : state.lower.Placed
  upper : state.upper.Placed
  generation : state.upper.generation = state.lower.generation + clears log

theorem Reaches.inclusive {compile : Bytes → τ} {files : φ} {steps left : List Step}
    {log : List (Event τ)} {moment : State φ τ}
    (reached : Reaches compile .double steps ⟨files, 0, {}, {}, []⟩ log left moment)
    (above : Throughout Step.ActsAbove steps) : Inclusive log moment := by
  have kept : KeepsIncluded _ log moment :=
    reached.traces_of_throughout keepsIncluded_sequential (take_keepsIncluded compile)
      (fun _ _ _ _ _ => ⟨rfl, id⟩) above
  have placed : Holds Memo.Placed .double moment :=
    reached.retains Memo.placed_lasting fun layer => by cases layer <;> exact Memo.placed_empty
  have upper : moment.upper.generation = 0 + _ := reached.counted .top
  have lower : moment.lower.generation = 0 + _ := reached.counted .bottom
  refine ⟨kept.included (Memo.includes_empty _), placed .bottom, placed .top, ?_⟩
  rw [upper, lower, kept.passed, Nat.add_assoc]

/-- If all steps act on the upper of two layers, at whatever depth, then after each of the outermost
steps the lower layer has a table for every path that the upper one has one for, neither has two
tables for one place, and the generation of the lower one is behind that of the upper one by the
number of clears so far. It is so at every other moment as well, also while loads are under way. -/
theorem layers_stay_inclusive (compile : Bytes → τ) (files : φ) {steps : List Step}
    (above : Throughout Step.ActsAbove steps) :
    let start : State φ τ := ⟨files, 0, {}, {}, []⟩
    (∀ front back, steps = front ++ back →
      let ran := performAll compile .double front start
      ran.outcome = .returned () ∧ Inclusive ran.log ran.state) ∧
    ∀ log left moment, Reaches compile .double steps start log left moment →
      Inclusive log moment := by
  intro start
  constructor
  · intro front back split
    subst split
    have reached := reaches_after compile .double front back start
    exact ⟨performAll_returns compile .double front start, reached.inclusive above⟩
  · intro log left moment reached
    exact reached.inclusive above

/-- While a file is read, it is edited, the upper layer is cleared, and the file is loaded again. The
upper layer then remembers the later reading. The lower one was not cleared, so the load that is
still under way puts the earlier reading there. -/
theorem layers_stay_inclusive_over_clear :
    let file : Path := .ofString "a"
    let told : Step := .invalidate .top file
    let change : Step := .edit (.write file (.file [0x62]))
    let clear : Step := .clear .top
    let again : Step := .load .top file [] []
    let slow : Step := .load .top file [] [change, clear, again]
    let store : Memory := ⟨[], some (.file [0x61])⟩
    let edited : Memory := ⟨[(file, .file [0x62])], some (.file [0x61])⟩
    let start : State Memory Bytes := ⟨store, 0, {}, {}, []⟩
    let moment : State Memory Bytes := ⟨edited, 1, ⟨[], 1⟩, ⟨[], 2⟩, []⟩
    let log : List (Event Bytes) :=
      [.began told, .forgotten file, .ended told .nothing, .began slow, .read file (.ok [0x61]),
        .began change, .ended change .nothing, .began clear, .ended clear .nothing]
    let ran := performAll id .double [told, slow] start
    Throughout Step.ActsAbove [told, slow] ∧
      Reaches id .double [told, slow] start log [again] moment ∧ Inclusive log moment ∧
      Inclusive ran.log ran.state ∧
      ran.state.upper = ⟨[(file.components, [0x62])], 2⟩ ∧
      ran.state.lower = ⟨[(file.components, [0x61])], 1⟩ := by
  intro file told change clear again slow store edited start moment log ran
  have inside : Throughout Step.ActsAbove [change, clear, again] :=
    .cons trivial .nil (.cons rfl .nil (.cons rfl .nil .nil))
  have above : Throughout Step.ActsAbove [told, slow] := .cons rfl .nil (.cons rfl inside .nil)
  have reached : Reaches id .double [told, slow] start log [again] moment :=
    .beyond (.within (fun below _ => by cases below <;> rfl) (.beyond (.beyond (.here _ _))))
  rcases layers_stay_inclusive id store above with ⟨ended, during⟩
  have upper : ran.state.upper = ⟨[(file.components, [0x62])], 2⟩ := by decide +kernel
  have lower : ran.state.lower = ⟨[(file.components, [0x61])], 1⟩ := by decide +kernel
  exact ⟨above, reached, during log [again] moment reached, (ended [told, slow] [] rfl).right, upper,
    lower⟩

/-- What the lower layer alone was made to forget, the upper one still remembers. -/
example :
    let file : Path := .ofString "a"
    let steps : List Step := [.load .top file [] [], .invalidate .bottom file]
    let store : Memory := ⟨[], some (.file [0x61])⟩
    let ran := performAll id .double steps (⟨store, 0, {}, {}, []⟩ : State Memory Bytes)
    ran.state.upper.size = 1 ∧ ran.state.lower.size = 0 := by
  decide +kernel

end Offsets

end SourceDiagnostics
