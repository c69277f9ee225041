import SourceDiagnostics.Proofs.Offsets.Places

/-!
What one layer of memory remembers, told from the log alone. A path is `Memoized` if a load of it
succeeded during which nothing was forgotten, and which is not out of date yet; the table that is
found for it is the one of the load that stored last. `Exact` says that a memo remembers this and
nothing else. Each event of a log either ends no step, and then nothing changes, or it ends one; a
memo that changes with it as the step says stays exact (`Exact.append_ended`).
-/

namespace SourceDiagnostics.Offsets

variable {φ τ : Type} {step : Step} {answer : Answer τ} {path : Path} {table : τ}
  {past before inner : List (Event τ)} {part final : Memo τ}

/-! What a log tells of a path: whether something was forgotten in its course (`Undisturbed`), whether
something left the tables of the path out of date (`Untouched`), and which loads stored one. -/

def Undisturbed (log : List (Event τ)) : Prop :=
  ∀ step answer, .ended step answer ∈ log → step.forgets .single .bottom = false

def Untouched (path : Path) (log : List (Event τ)) : Prop :=
  ∀ step answer, .ended step answer ∈ log → ¬ step.Outdates .single .bottom path

/-- A step that asked for a table of the path and was given one, and nothing was forgotten in the
meantime. -/
structure Succeeding (path : Path) (step : Step) (during : List (Event τ)) (answer : Answer τ) :
    Prop where
  asked : ∃ layer spelled, step.target? = some (layer, spelled) ∧ spelled ≈ path
  given : ∃ table, answer = .table table
  undisturbed : Undisturbed during

/-- A step that asked for a table of the path and was given one that was read for it, and nothing
was forgotten in the meantime. -/
structure Storing (path : Path) (table : τ) (step : Step) (during : List (Event τ))
    (answer : Answer τ) : Prop where
  read : ∃ layer spelled rest, step.target? = some (layer, spelled) ∧ spelled ≈ path ∧
    during = .read spelled (.ok table) :: rest
  given : answer = .table table
  undisturbed : Undisturbed during

/-- A load of the path has succeeded, undisturbed, and since then no table of the path has been
left out of date. -/
def Memoized (log : List (Event τ)) (path : Path) : Prop :=
  ∃ before step during answer after, Took log before step during answer after ∧
    Succeeding path step during answer ∧ Untouched path after

/-- A load of the path stored a table, and this is what was logged after it came to an end. -/
def Stores (log : List (Event τ)) (path : Path) (table : τ) (after : List (Event τ)) : Prop :=
  ∃ before step during answer, Took log before step during answer after ∧
    Storing path table step during answer

/-- The table of the load of the path that was the last one to store one, if it is not out of date
yet. -/
def LastStored (log : List (Event τ)) (path : Path) (table : τ) : Prop :=
  ∃ after, Stores log path table after ∧ Untouched path after ∧
    ∀ other later, Stores log path other later → after.length ≤ later.length

/-- A memo that remembers the tables that were stored last, for the paths that are memoized. -/
structure Exact (past : List (Event τ)) (part : Memo τ) : Prop where
  stored : ∀ path table, part.find? path = some table → LastStored past path table
  complete : ∀ path, Memoized past path → (part.find? path).isSome

theorem Storing.succeeding {during : List (Event τ)}
    (storing : Storing path table step during answer) : Succeeding path step during answer where
  asked := by
    rcases storing.read with ⟨layer, spelled, _, target, equal, _⟩
    exact ⟨layer, spelled, target, equal⟩
  given := ⟨table, storing.given⟩
  undisturbed := storing.undisturbed

theorem LastStored.memoized (last : LastStored past path table) : Memoized past path := by
  rcases last with ⟨after, ⟨before, step, during, answer, took, storing⟩, untouched, _⟩
  exact ⟨before, step, during, answer, after, took, storing.succeeding, untouched⟩

theorem Exact.find?_isSome_iff (exact : Exact past part) (path : Path) :
    (part.find? path).isSome ↔ Memoized past path := by
  constructor
  · intro found
    rcases Option.isSome_iff_exists.mp found with ⟨table, found⟩
    exact (exact.stored path table found).memoized
  · exact exact.complete path

theorem Untouched.append {first last : List (Event τ)} (front : Untouched path first)
    (back : Untouched path last) : Untouched path (first ++ last) := by
  intro step answer member
  exact (List.mem_append.mp member).elim (front step answer) (back step answer)

/-! What an event does to what is memoized. -/

theorem Exact.append_quiet {later : List (Event τ)} (exact : Exact past part)
    (quiet : ∀ step answer, .ended step answer ∉ later) : Exact (past ++ later) part where
  stored path table found := by
    rcases exact.stored path table found with
      ⟨after, ⟨before, step, during, answer, took, storing⟩, untouched, last⟩
    refine ⟨after ++ later, ⟨before, step, during, answer, took.append later, storing⟩,
      untouched.append fun step answer member => absurd member (quiet step answer), ?_⟩
    rintro other ending ⟨before', step', during', answer', took', storing'⟩
    rcases took'.of_append_quiet quiet with ⟨rest, rfl, earlier⟩
    have shorter := last other rest ⟨before', step', during', answer', earlier, storing'⟩
    rw [List.length_append, List.length_append]
    omega
  complete path := by
    rintro ⟨before, step, during, answer, after, took, succeeding, untouched⟩
    rcases took.of_append_quiet quiet with ⟨rest, rfl, earlier⟩
    exact exact.complete path ⟨before, step, during, answer, rest, earlier, succeeding,
      fun step answer member => untouched step answer (List.mem_append_left _ member)⟩

theorem Exact.append_began (exact : Exact past part) (flat : ∀ event ∈ inner, event.change = 0) :
    Exact (past ++ .began step :: inner) part := by
  apply exact.append_quiet
  intro other answer member
  rcases List.mem_cons.mp member with started | inside
  · cases started
  · exact not_ended_of_flat flat inside

/-- When a step ends, a memo is exact afterwards if the tables in it are the one that the step
stores, or else were there before and are not out of date, and if it lacks none of these. -/
theorem Exact.append_ended (exact : Exact (before ++ .began step :: inner) part)
    (inside : Balanced inner)
    (stored : ∀ path table, final.find? path = some table →
      Storing path table step inner answer ∨
        part.find? path = some table ∧ ¬ step.Outdates .single .bottom path ∧
          ∀ other, ¬ Storing path other step inner answer)
    (complete : ∀ path, Succeeding path step inner answer ∨
      (part.find? path).isSome ∧ ¬ step.Outdates .single .bottom path →
        (final.find? path).isSome) :
    Exact (before ++ .began step :: (inner ++ [.ended step answer])) final := by
  have whole : before ++ .began step :: (inner ++ [.ended step answer]) =
      (before ++ .began step :: inner) ++ [.ended step answer] := by
    rw [List.append_assoc, List.cons_append]
  constructor
  · intro path table found
    rcases stored path table found with storing | ⟨earlier, current, unstored⟩
    · refine ⟨[], ⟨before, step, inner, answer, ⟨rfl, inside⟩, storing⟩, ?_, ?_⟩
      · exact fun _ _ member => absurd member List.not_mem_nil
      · exact fun _ _ _ => Nat.zero_le _
    · rcases exact.stored path table earlier with
        ⟨after, ⟨before', step', during, answer', took, storing⟩, untouched, last⟩
      rw [whole]
      refine ⟨after ++ [.ended step answer],
        ⟨before', step', during, answer', took.append _, storing⟩, ?_, ?_⟩
      · apply untouched.append
        intro step' answer' member
        cases List.mem_singleton.mp member
        exact current
      · rintro other later ⟨before', step', during', answer', took', storing'⟩
        rcases took'.of_append_ended rfl inside with
          ⟨rest, rfl, before_end⟩ | ⟨_, rfl, rfl, rfl⟩
        · have shorter := last other rest ⟨before', step', during', answer', before_end, storing'⟩
          rw [List.length_append, List.length_append]
          omega
        · exact absurd storing' (unstored other)
  · intro path memoized
    rw [whole] at memoized
    rcases memoized with ⟨before', step', during, answer', after, took, succeeding, untouched⟩
    apply complete
    rcases took.of_append_ended rfl inside with ⟨rest, rfl, earlier⟩ | ⟨_, rfl, rfl, rfl⟩
    · refine .inr ⟨exact.complete path ⟨before', step', during, answer', rest, earlier, succeeding,
        fun step answer member => untouched step answer (List.mem_append_left _ member)⟩, ?_⟩
      exact untouched step answer (List.mem_append_right _ (List.mem_singleton.mpr rfl))
    · exact .inl succeeding

theorem not_succeeding_of_untargeted (untargeted : step.target? = none) :
    ¬ Succeeding path step inner answer := by
  intro succeeding
  rcases succeeding.asked with ⟨_, _, target, _⟩
  rw [untargeted] at target
  cases target

theorem Exact.append_untargeted (exact : Exact past part)
    (flat : ∀ event ∈ inner, event.change = 0) (untargeted : step.target? = none)
    (kept : ∀ path table, final.find? path = some table ↔
      part.find? path = some table ∧ ¬ step.Outdates .single .bottom path) :
    Exact (past ++ .began step :: (inner ++ [.ended step answer])) final := by
  apply (exact.append_began flat).append_ended (.flat flat)
  · intro path table found
    rcases (kept path table).mp found with ⟨earlier, current⟩
    exact .inr ⟨earlier, current, fun other storing =>
      not_succeeding_of_untargeted untargeted storing.succeeding⟩
  · rintro path (succeeding | ⟨earlier, current⟩)
    · exact (not_succeeding_of_untargeted untargeted succeeding).elim
    · rcases Option.isSome_iff_exists.mp earlier with ⟨table, found⟩
      exact Option.isSome_iff_exists.mpr ⟨table, (kept path table).mpr ⟨found, current⟩⟩

/-! Steps that ask for a table leave none out of date. -/

theorem not_outdates_of_target {target : Layer × Path} (asks : step.target? = some target) :
    ¬ step.Outdates .single .bottom path := by
  intro outdated
  cases step with
  | load | hold | edit | held | census => exact outdated.right
  | invalidate | clear => cases asks

theorem Succeeding.equiv {layer : Layer} {other : Path}
    (succeeding : Succeeding other step inner answer) (target : step.target? = some (layer, path)) :
    path ≈ other := by
  rcases succeeding.asked with ⟨_, _, target', equal⟩
  rw [target] at target'
  cases target'
  exact equal

theorem Exact.append_unstored {target : Layer × Path}
    (exact : Exact (before ++ .began step :: inner) part) (inside : Balanced inner)
    (asks : step.target? = some target)
    (unstored : ∀ path table, ¬ Storing path table step inner answer)
    (known : ∀ path, Succeeding path step inner answer → (part.find? path).isSome) :
    Exact (before ++ .began step :: (inner ++ [.ended step answer])) part := by
  apply exact.append_ended inside
  · exact fun path table found => .inr ⟨found, not_outdates_of_target asks, unstored path⟩
  · rintro path (succeeding | ⟨earlier, _⟩)
    · exact known path succeeding
    · exact earlier

theorem Exact.append_stored {layer : Layer}
    (exact : Exact (before ++ .began step :: inner) part) (inside : Balanced inner)
    (asks : step.target? = some (layer, path)) (storing : Storing path table step inner answer) :
    Exact (before ++ .began step :: (inner ++ [.ended step answer])) (part.insert path table) := by
  apply exact.append_ended inside
  · intro other table' found
    rw [Memo.find?_insert] at found
    split at found
    · next equal =>
      cases found
      rcases storing.read with ⟨layer, spelled, rest, target, equal', logged⟩
      exact .inl ⟨⟨layer, spelled, rest, target, Setoid.trans equal' (Setoid.symm equal), logged⟩,
        storing.given, storing.undisturbed⟩
    · next different =>
      refine .inr ⟨found, not_outdates_of_target asks, fun _ storing' => different ?_⟩
      exact Setoid.symm (storing'.succeeding.equiv asks)
  · intro other given
    rw [Memo.find?_insert]
    split
    · rfl
    · next different =>
      rcases given with succeeding | ⟨earlier, _⟩
      · exact absurd (Setoid.symm (succeeding.equiv asks)) different
      · exact earlier

/-! Histories. -/

theorem undisturbed_iff_countP {log : List (Event τ)} :
    Undisturbed log ↔ log.countP (Event.forgets .single .bottom) = 0 := by
  rw [List.countP_eq_zero]
  constructor
  · intro undisturbed event member forgets
    cases event with
    | ended step answer =>
        rw [Event.forgets, undisturbed step answer member] at forgets
        cases forgets
    | began | read | forgotten | noted => cases forgets
  · intro calm step answer member
    exact Bool.eq_false_iff.mpr (calm _ member)

theorem Keeps.undisturbed_iff {state final : State φ τ} {log : List (Event τ)}
    (keeps : Keeps .single state log final) :
    Undisturbed log ↔ final.lower.generation = state.lower.generation := by
  have counted : final.lower.generation = state.lower.generation + _ := keeps.counted .bottom
  rw [undisturbed_iff_countP]
  omega

def Preserves (state : State φ τ) (log : List (Event τ)) (final : State φ τ) : Prop :=
  ∀ past, Exact past state.lower → Exact (past ++ log) final.lower

theorem preserves_sequential :
    Sequential (Preserves : State φ τ → List (Event τ) → State φ τ → Prop) where
  refl state past exact := by rwa [List.append_nil]
  trans front back past exact := by
    rw [← List.append_assoc]
    exact back _ (front past exact)

variable [FileStore φ] {state : State φ τ} {layer : Layer}

theorem Exact.append_load {compile : Bytes → τ}
    {during : Action (Event τ) (State φ τ) Empty Unit} (exact : Exact past state.lower)
    (keeps : during.Traces (Keeps .single)) (preserves : during.Traces Preserves)
    (returns : ∀ state, (during state).outcome = .returned ())
    (asks : step.target? = some (layer, path)) {result : Except FileError τ}
    {reached : State φ τ} {log : List (Event τ)}
    (loaded : (Provider.remembering State.lowerSlot (files compile during)).load path state =
      ⟨.ofExcept result, reached, log⟩) :
    Exact (past ++ .began step :: (log ++ [.ended step (.ofExcept result)])) reached.lower := by
  let entered : State φ τ := { state with reads := state.reads + 1 }
  rw [Provider.load_remembering_of_loaded (load_files_of_returns compile returns path state)]
    at loaded
  generalize (FileStore.read state.files path).map compile = contents at loaded
  have reading : Exact (past ++ .began step :: .read path contents :: (during entered).log)
      (during entered).state.lower := by
    have began : Exact (past ++ .began step :: [.read path contents]) entered.lower :=
      exact.append_began (List.forall_mem_singleton.mpr rfl)
    have happened := preserves entered _ began
    simpa only [List.append_assoc, List.cons_append, List.nil_append] using happened
  have inside : Balanced (.read path contents :: (during entered).log) :=
    (Balanced.single rfl).append (keeps entered).balanced
  have undisturbed_iff : Undisturbed (.read path contents :: (during entered).log) ↔
      (during entered).state.lower.generation = state.lower.generation := by
    rw [undisturbed_iff_countP, List.countP_cons_of_neg Bool.false_ne_true,
      ← undisturbed_iff_countP]
    exact (keeps entered).undisturbed_iff
  cases found : state.lower.find? path with
  | some table =>
      change (State.lowerSlot.get state).find? path = _ at found
      rw [found] at loaded
      injection loaded with outcomes states logs
      subst states logs
      apply (exact.append_began (Notes.single _).flat).append_unstored (.single rfl) asks
      · intro other table' storing
        rcases storing.read with ⟨_, _, _, _, _, logged⟩
        cases logged
      · intro other succeeding
        rw [← state.lower.find?_congr (succeeding.equiv asks)]
        exact Option.isSome_iff_exists.mpr ⟨table, found⟩
  | none =>
      change (State.lowerSlot.get state).find? path = _ at found
      rw [found] at loaded
      cases contents with
      | error error =>
          injection loaded with outcomes states logs
          subst states logs
          have failing {other : Path} (succeeding : Succeeding other step
              (.read path (.error error) :: (during entered).log) (.ofExcept result)) : False := by
            rcases succeeding.given with ⟨table, given⟩
            cases result <;> cases outcomes
            cases given
          exact reading.append_unstored inside asks (fun _ _ storing => failing storing.succeeding)
            fun _ succeeding => (failing succeeding).elim
      | ok table =>
          dsimp only at loaded
          split at loaded
          · next unmoved =>
            injection loaded with outcomes states logs
            subst states logs
            cases result <;> cases outcomes
            exact reading.append_stored inside asks ⟨⟨layer, path, _, asks, Setoid.refl path, rfl⟩,
              rfl, undisturbed_iff.mpr unmoved⟩
          · next moved =>
            injection loaded with outcomes states logs
            subst states logs
            have forgotten {other : Path} {answer : Answer τ} (succeeding : Succeeding other step
                (.read path (.ok table) :: (during entered).log ++
                  [NoteLog.note (.tableOutdated path)]) answer) : False :=
              moved (undisturbed_iff.mp fun step answer member =>
                succeeding.undisturbed step answer (List.mem_append_left _ member))
            have noted := reading.append_quiet fun _ _ =>
              not_ended_of_flat (Notes.single (.tableOutdated path)).flat
            rw [List.append_assoc] at noted
            exact noted.append_unstored (inside.append (.single rfl)) asks
              (fun _ _ storing => forgotten storing.succeeding)
              fun _ succeeding => (forgotten succeeding).elim

theorem not_outdates_of_not_forgets (unforgetting : step.forgets .single .bottom = false) :
    ¬ step.Outdates .single .bottom path := by
  intro outdated
  have forgets := outdated.left
  rw [unforgetting] at forgets
  cases forgets

theorem perform_invalidate_single (compile : Bytes → τ) (issued : Layer) (path : Path)
    (state : State φ τ) :
    ∃ final, (Step.invalidate issued path).perform compile .single state =
        ⟨.returned .nothing, final, [.forgotten path]⟩ ∧
      final.lower = state.lower.forget path := by
  rcases perform_invalidate compile .single issued path state with ⟨final, performed, memos⟩
  refine ⟨final, performed, ?_⟩
  have forgotten := memos .bottom
  cases issued <;> exact forgotten

theorem perform_clear_single (compile : Bytes → τ) (issued : Layer) (state : State φ τ) :
    ∃ final, (Step.clear issued).perform compile .single state = ⟨.returned .nothing, final, []⟩ ∧
      final.lower = state.lower.clear := by
  rcases perform_clear compile .single issued state with ⟨final, performed, memos⟩
  refine ⟨final, performed, ?_⟩
  have forgotten := memos .bottom
  cases issued <;> exact forgotten

theorem outdates_clear (issued : Layer) (path : Path) :
    (Step.clear issued).Outdates .single .bottom path :=
  ⟨rfl, fun both => Stacking.noConfusion both.left⟩

theorem take_preserves (compile : Bytes → τ) (step : Step)
    (happens : (performAll compile .single step.during :
      Action (Event τ) (State φ τ) Empty Unit).Traces Preserves) :
    (step.take compile .single : Action (Event τ) (State φ τ) Empty Unit).Traces Preserves := by
  intro state past exact
  have plain {other : Step} {answer : Answer τ} {final : State φ τ}
      (performed : other.perform compile .single state = ⟨.returned answer, final, []⟩)
      (untargeted : other.target? = none) (unforgetting : other.forgets .single .bottom = false)
      (same : final.lower = state.lower) :
      Exact (past ++ (other.take compile .single state).log)
        (other.take compile .single state).state.lower := by
    rw [take_apply performed]
    apply exact.append_untargeted (List.forall_mem_nil _) untargeted
    intro path table
    rw [same]
    exact ⟨fun found => ⟨found, not_outdates_of_not_forgets unforgetting⟩, And.left⟩
  have asking {layer : Layer} {path : Path} (asks : step.target? = some (layer, path)) :
      Exact (past ++ (step.take compile .single state).log)
        (step.take compile .single state).state.lower := by
    rcases layered_calm .single layer
      (files_calm compile (performAll_returns compile .single step.during)) path state with
      ⟨result, final, log, loaded⟩
    rcases perform_asked asks loaded with ⟨kept, performed, same⟩
    have lower : kept.lower = final.lower := same .bottom
    rw [take_apply performed, lower]
    apply exact.append_load (performAll_keeps compile .single step.during) happens
      (performAll_returns compile .single step.during) asks
    cases layer <;> exact loaded
  cases step with
  | edit edit => exact plain rfl rfl rfl rfl
  | held name offsets => exact plain rfl rfl rfl rfl
  | census layer => exact plain rfl rfl rfl rfl
  | load | hold => exact asking rfl
  | invalidate issued path =>
      rcases perform_invalidate_single compile issued path state with ⟨final, performed, lower⟩
      rw [take_apply performed, lower]
      apply exact.append_untargeted (List.forall_mem_singleton.mpr rfl) rfl
      intro other table
      rw [Memo.find?_forget]
      split
      · next equal =>
        constructor
        · intro none
          cases none
        · exact fun given => absurd ⟨rfl, equal⟩ given.right
      · next different =>
        exact ⟨fun found => ⟨found, fun outdated => different outdated.right⟩, And.left⟩
  | clear issued =>
      rcases perform_clear_single compile issued state with ⟨final, performed, lower⟩
      rw [take_apply performed, lower]
      apply exact.append_untargeted (List.forall_mem_nil _) rfl
      intro other table
      rw [Memo.find?_clear]
      constructor
      · intro none
        cases none
      · exact fun given => absurd (outdates_clear issued other) given.right

theorem performAll_preserves (compile : Bytes → τ) (steps : List Step) :
    (performAll compile .single steps : Action (Event τ) (State φ τ) Empty Unit).Traces
      Preserves :=
  steps_traces preserves_sequential (take_preserves compile) steps

theorem Reaches.preserves {compile : Bytes → τ} {steps left : List Step} {moment : State φ τ}
    {log : List (Event τ)} (reached : Reaches compile .single steps state log left moment) :
    Preserves state log moment := by
  refine reached.traces preserves_sequential (fun step => ?_) ?_
  · exact take_preserves compile step (performAll_preserves compile step.during)
  · intro layer path offsets during state past exact
    exact exact.append_began (List.forall_mem_singleton.mpr rfl)

theorem exact_empty : Exact ([] : List (Event τ)) {} where
  stored path table found := by cases found
  complete path memoized := by
    rcases memoized with ⟨before, _, _, _, _, took, _⟩
    have logged := took.logged
    cases before <;> cases logged

omit [FileStore φ] in
theorem misses_single_iff : Misses .single layer path state ↔ state.lower.find? path = none := by
  constructor
  · exact fun misses => misses layer (.inl rfl)
  · exact fun missing below _ => missing

theorem perform_of_found (compile : Bytes → τ) (step : Step)
    (asks : step.target? = some (layer, path)) (found : state.lower.find? path = some table) :
    ∃ final, step.perform compile .single state =
      ⟨.returned (.table table), final, [.noted (.tableRemembered path)]⟩ := by
  have loaded (base : Provider (Event τ) (State φ τ) τ) (layer : Layer) :
      (layered .single layer base).load path state =
        ⟨.ofExcept (.ok table), state, [.noted (.tableRemembered path)]⟩ := by
    cases layer <;> exact remembering_of_found State.lowerSlot base found
  rcases perform_asked asks (loaded _ layer) with ⟨kept, performed, _⟩
  exact ⟨kept, performed⟩

/-- At every moment of a history over one layer of memory, the paths that a table is remembered for
are the memoized ones, the size of the memo is their number up to spelling, and a step that asks
for a table reads the file, once, if and only if its path is not memoized; else it is given the
table that was stored last. -/
theorem reached_memo_is_exact (compile : Bytes → τ) (steps : List Step) (files : φ)
    {log : List (Event τ)} {left : List Step} {moment : State φ τ}
    (reached : Reaches compile .single steps ⟨files, 0, {}, {}, []⟩ log left moment) :
    (∀ path, (moment.lower.find? path).isSome ↔ Memoized log path) ∧
      (∃ paths : List Path, paths.length = moment.lower.size ∧ paths.Pairwise (¬ · ≈ ·) ∧
        (∀ path, Memoized log path ↔ ∃ other ∈ paths, path ≈ other) ∧
        (moment.lower.isEmpty = true ↔ paths.length = 0)) ∧
      ∀ step rest layer path, left = step :: rest → step.target? = some (layer, path) →
        let ran := step.perform compile .single moment
        let result := (FileStore.read moment.files path).map compile
        let entered : State φ τ := { moment with reads := moment.reads + 1 }
        (Memoized log path → ∃ table, LastStored log path table ∧
          ran.outcome = .returned (.table table) ∧ ran.log = [.noted (.tableRemembered path)]) ∧
        (¬ Memoized log path → ran.outcome = .returned (.ofExcept result) ∧ ∃ notes, Notes notes ∧
          ran.log = .read path result ::
            ((performAll compile .single step.during entered).log ++ notes)) := by
  have exact : Exact log moment.lower := reached.preserves [] exact_empty
  have placed : moment.lower.Placed :=
    reached.retains Memo.placed_lasting (fun layer => by cases layer <;> exact Memo.placed_empty)
      .bottom
  refine ⟨exact.find?_isSome_iff, ?_, ?_⟩
  · rcases placed.exists_paths with ⟨paths, size, distinct, found_iff⟩
    refine ⟨paths, size, distinct, fun path => ?_, ?_⟩
    · rw [← exact.find?_isSome_iff, found_iff]
    · rw [Memo.isEmpty_iff_size_eq_zero, size]
  · intro step rest layer path _ asks ran result entered
    constructor
    · intro memoized
      rcases Option.isSome_iff_exists.mp (exact.complete path memoized) with ⟨table, found⟩
      rcases perform_of_found compile step asks found with ⟨final, performed⟩
      refine ⟨table, exact.stored path table found, ?_, ?_⟩
      · exact congrArg Ran.outcome performed
      · exact congrArg Ran.log performed
    · intro unknown
      have missing : moment.lower.find? path = none := by
        rw [← Option.not_isSome_iff_eq_none, exact.find?_isSome_iff]
        exact unknown
      rcases perform_of_misses compile step asks (misses_single_iff.mpr missing) with
        ⟨final, notes, performed, noted⟩
      exact ⟨congrArg Ran.outcome performed, notes, noted, congrArg Ran.log performed⟩

/-- While a file is read, it is said to have changed, and is loaded by another name. The load that
is still under way will store nothing, but the other one has, and what is loaded next finds that. -/
theorem reached_memo_is_exact_during_load :
    let file : Path := .ofString "a"
    let again : Path := .ofString "a/."
    let told : Step := .invalidate .top file
    let inner : Step := .load .top again [] []
    let next : Step := .load .top file [] []
    let outer : Step := .load .top file [] [told, inner, next]
    let store : Memory := ⟨[], some (.file [0x0A])⟩
    let memo : Memo Bytes := ⟨[(file.components, [0x0A])], 1⟩
    let moment : State Memory Bytes := ⟨store, 2, memo, {}, []⟩
    let log : List (Event Bytes) :=
      [.began outer, .read file (.ok [0x0A]), .began told, .forgotten file, .ended told .nothing,
        .began inner, .read again (.ok [0x0A]), .ended inner (.table [0x0A])]
    Reaches id .single [outer] ⟨store, 0, {}, {}, []⟩ log [next] moment ∧
      Memoized log file ∧ (next.perform id .single moment).log = [.noted (.tableRemembered file)] := by
  intro file again told inner next outer store memo moment log
  have reached : Reaches id .single [outer] ⟨store, 0, {}, {}, []⟩ log [next] moment :=
    .within (fun _ _ => rfl) (.beyond (.beyond (.here [next] moment)))
  rcases reached_memo_is_exact id [outer] store reached with ⟨found_iff, _, loads⟩
  have memoized : Memoized log file := (found_iff file).mp rfl
  rcases (loads next [] .top file rfl rfl).left memoized with ⟨_, _, _, logged⟩
  exact ⟨reached, memoized, logged⟩

end SourceDiagnostics.Offsets
