import SourceDiagnostics.Files.Memory
import SourceDiagnostics.Proofs.Offsets.CurrentTables
import SourceDiagnostics.Proofs.Offsets.Moments

/-!
What is left after a clear. A layer that is cleared has no table for any path, and a load that was
under way puts none into it, since the generation has moved. So a single layer that is cleared, or
two layers that are both cleared, are as good as told of a change of every file. The upper of two
layers cleared alone is not: the lower one is not told, and hands out what it still remembers.
-/

namespace SourceDiagnostics.Offsets

variable {φ τ : Type} {stacking : Stacking} {layer : Layer} {path : Path} {table : τ}
  {result : Except FileError τ} {state between : State φ τ} {log : List (Event τ)}

/-! What a load leaves in a memo that was made to forget something while it was under way. -/

theorem memo_load_remembering {other : Layer} {inner : Provider (Event τ) (State φ τ) τ}
    (missing : (memo stacking layer state).find? path = none)
    (loaded : inner.load path state = ⟨.ofExcept result, between, log⟩)
    (moved : stacking = .single ∨ other = layer →
      (memo stacking layer between).generation ≠ (memo stacking layer state).generation) :
    memo stacking other
        ((Provider.remembering (State.slot stacking layer) inner).load path state).state =
      memo stacking other between := by
  have run := Provider.load_remembering (State.slot stacking layer) inner path state
  generalize Provider.load _ path state = ran at run ⊢
  cases run with
  | hit table found =>
      rw [memo, found] at missing
      cases missing
  | stored table reached log' _ loaded' unmoved =>
      obtain ⟨_, rfl, _⟩ := Ran.mk.inj (loaded.symm.trans loaded')
      rw [memo_set, if_neg fun shared => moved shared unmoved]
  | outdated table reached log' _ loaded' _ =>
      rw [(Ran.mk.inj (loaded.symm.trans loaded')).right.left]
  | failed error reached log' _ loaded' =>
      rw [(Ran.mk.inj (loaded.symm.trans loaded')).right.left]
  | panicked message reached log' _ loaded' =>
      rw [(Ran.mk.inj (loaded.symm.trans loaded')).right.left]

theorem memo_load_layered {other : Layer} {base : Provider (Event τ) (State φ τ) τ}
    (misses : Misses stacking layer path state)
    (loaded : base.load path state = ⟨.ofExcept result, between, log⟩)
    (moved : (memo stacking other between).generation ≠ (memo stacking other state).generation) :
    memo stacking other ((layered stacking layer base).load path state).state =
      memo stacking other between := by
  have own {below : Layer} (shared : stacking = .single ∨ other = below) :
      (memo stacking below between).generation ≠ (memo stacking below state).generation := by
    rw [← memo_of_shared shared, ← memo_of_shared shared]
    exact moved
  cases stacking with
  | single =>
      cases layer <;> exact memo_load_remembering (misses _ (.inl rfl)) loaded own
  | double =>
      cases layer with
      | bottom => exact memo_load_remembering (misses .bottom (.inl rfl)) loaded own
      | top =>
          -- The load below is one through a memory as well, so the same law holds of it first.
          have lower : memo .double other
              ((Provider.remembering State.lowerSlot base).load path state).state =
                memo .double other between :=
            memo_load_remembering (misses .bottom (.inr rfl)) loaded own
          rcases remembering_of_missing State.lowerSlot (misses .bottom (.inr rfl)) loaded with
            ⟨middle, notes, middling, _⟩
          rw [middling] at lower
          rw [← lower]
          refine memo_load_remembering (misses .top (.inl rfl)) middling fun shared => ?_
          have same : other = .top := shared.resolve_left Stacking.noConfusion
          rw [← same, lower]
          exact moved

variable [FileStore φ]

theorem moved_of_cleared (compile : Bytes → τ) {steps : List Step} {issued : Layer}
    {answer : Answer τ}
    (cleared : .ended (.clear issued) answer ∈ (performAll compile stacking steps state).log) :
    (memo stacking issued (performAll compile stacking steps state).state).generation ≠
      (memo stacking issued state).generation := by
  have forgets : Event.forgets stacking issued (.ended (.clear issued) answer : Event τ) = true := by
    cases stacking <;> cases issued <;> rfl
  have some_forgets := List.countP_pos_iff.mpr ⟨_, cleared, forgets⟩
  have counted := (performAll_keeps compile stacking steps state).counted issued
  omega

/-- A load that is under way while a layer is cleared leaves that layer as it was at the end of what
happened during the load. -/
theorem memo_load_of_cleared (compile : Bytes → τ) {offsets : List Offset} {during : List Step}
    {issued : Layer} {answer : Answer τ}
    (cleared : .ended (.clear issued) answer ∈
      ((Step.load layer path offsets during).perform compile stacking state).log) :
    memo stacking issued
        ((Step.load layer path offsets during).perform compile stacking state).state =
      memo stacking issued
        (performAll compile stacking during { state with reads := state.reads + 1 }).state := by
  by_cases misses : Misses stacking layer path state
  · have base := load_files_of_returns compile (performAll_returns compile stacking during) path
      state
    rcases layered_of_misses misses base with ⟨final, notes, loaded, noted⟩
    rw [perform_load loaded offsets] at cleared ⊢
    have inside : .ended (.clear issued) answer ∈
        (performAll compile stacking during { state with reads := state.reads + 1 }).log := by
      rcases List.mem_append.mp cleared with front | back
      · exact (List.mem_cons.mp front).resolve_left nofun
      · exact absurd back (not_ended_of_flat noted.flat)
    have same : memo stacking issued { state with reads := state.reads + 1 } =
        memo stacking issued state := by
      cases stacking <;> cases issued <;> rfl
    have moved := moved_of_cleared compile inside
    rw [same] at moved
    have left := memo_load_layered misses base moved
    rwa [loaded] at left
  · rcases perform_of_not_misses compile (.load layer path offsets during) rfl misses with
      ⟨table, final, notes, performed, noted⟩
    rw [performed] at cleared
    exact absurd cleared (not_ended_of_flat noted.flat)

/-! What the next load is given. -/

/-- A load through the upmost layer reads its file, whatever happens during it, and is given the
result. -/
def GivenAfresh (compile : Bytes → τ) (stacking : Stacking) (path : Path)
    (result : Except FileError τ) (state : State φ τ) : Prop :=
  ∀ offsets during, ∃ final notes,
    (Step.load .top path offsets during).perform compile stacking state =
      ⟨.returned (.ofExcept result), final, .read path result ::
        ((performAll compile stacking during { state with reads := state.reads + 1 }).log ++
          notes)⟩ ∧
    Notes notes

/-- A load through the upmost layer is given the table, and no file is read. -/
def GivenFromMemory (compile : Bytes → τ) (stacking : Stacking) (path : Path) (table : τ)
    (state : State φ τ) : Prop :=
  ∀ offsets during, ∃ final notes,
    (Step.load .top path offsets during).perform compile stacking state =
      ⟨.returned (.table table), final, notes⟩ ∧
    Notes notes

theorem givenAfresh_of_misses (compile : Bytes → τ) (misses : Misses stacking .top path state) :
    GivenAfresh compile stacking path ((FileStore.read state.files path).map compile) state :=
  fun offsets during => perform_of_misses compile (.load .top path offsets during) rfl misses

theorem givenFromMemory_of_lower (compile : Bytes → τ) (missing : state.upper.find? path = none)
    (found : state.lower.find? path = some table) :
    GivenFromMemory compile .double path table state := by
  intro offsets during
  have lower := remembering_of_found State.lowerSlot
    (files compile (performAll compile .double during)) found
  rcases remembering_of_missing State.upperSlot missing lower with ⟨final, notes, loaded, noted⟩
  have layers : (layered .double .top (files compile (performAll compile .double during))).load path
      state = ⟨.ofExcept (.ok table), final, [.noted (.tableRemembered path)] ++ notes⟩ := loaded
  exact ⟨final, _, perform_load layers offsets, (Notes.single _).append noted⟩

def after (compile : Bytes → τ) (stacking : Stacking) (steps : List Step) (state : State φ τ) :
    State φ τ :=
  (performAll compile stacking steps state).state

theorem memo_after_clear (compile : Bytes → τ) (stacking : Stacking) (issued layer : Layer)
    (state : State φ τ) : memo stacking layer (after compile stacking [.clear issued] state) =
      if (Step.clear issued).forgets stacking layer then (memo stacking layer state).clear
      else memo stacking layer state := by
  cases stacking <;> cases issued <;> cases layer <;> rfl

theorem misses_after_told (compile : Bytes → τ) {told : Path} (equal : path ≈ told) :
    Misses stacking .top path (after compile stacking [.invalidate .top told] state) := by
  intro below _
  have forgotten : memo stacking below (after compile stacking [.invalidate .top told] state) =
      (memo stacking below state).forget told := by
    cases stacking <;> cases below <;> rfl
  rw [forgotten, Memo.find?_forget, if_pos equal]

theorem misses_after_clears (compile : Bytes → τ) {first second : Layer} (both : first ≠ second) :
    Misses .double .top path (after compile .double [.clear first, .clear second] state) := by
  intro below _
  have cleared : memo .double below
      (after compile .double [.clear first, .clear second] state) =
        (memo .double below state).clear := by
    cases first <;> cases second <;> cases below <;> first | exact absurd rfl both | rfl
  rw [cleared, Memo.find?_clear]

/-- What a load through the upmost layer is given next after a clear, against what it is given after
its file was said to have changed. A single layer that was cleared, and two layers that both were,
have the file read, and so does the upper of two layers that was cleared alone, unless the lower one
remembers a table: then that one is handed out. A load that is under way while a layer is cleared
leaves nothing in that layer. -/
theorem load_after_clear (compile : Bytes → τ) (state : State φ τ) (path : Path) :
    let current := (FileStore.read state.files path).map compile
    (∀ stacking told, path ≈ told →
      GivenAfresh compile stacking path current
        (after compile stacking [.invalidate .top told] state)) ∧
    (∀ layer, GivenAfresh compile .single path current
      (after compile .single [.clear layer] state)) ∧
    (∀ first second, first ≠ second →
      GivenAfresh compile .double path current
        (after compile .double [.clear first, .clear second] state)) ∧
    (match state.lower.find? path with
      | none => GivenAfresh compile .double path current
          (after compile .double [.clear .top] state)
      | some table => GivenFromMemory compile .double path table
          (after compile .double [.clear .top] state)) ∧
    ∀ stacking layer offsets during issued answer,
      .ended (.clear issued) answer ∈
        ((Step.load layer path offsets during).perform compile stacking state).log →
      memo stacking issued
          ((Step.load layer path offsets during).perform compile stacking state).state =
        memo stacking issued
          (performAll compile stacking during { state with reads := state.reads + 1 }).state := by
  refine ⟨?_, ?_, ?_, ?_, ?_⟩
  · intro stacking told equal
    have misses : Misses stacking .top path (after compile stacking [.invalidate .top told] state) :=
      misses_after_told compile equal
    have afresh := givenAfresh_of_misses compile misses
    cases stacking <;> exact afresh
  · intro layer
    refine givenAfresh_of_misses compile fun below _ => ?_
    rw [memo_after_clear]
    rfl
  · intro first second both
    have misses : Misses .double .top path
        (after compile .double [.clear first, .clear second] state) :=
      misses_after_clears compile both
    have afresh := givenAfresh_of_misses compile misses
    cases first <;> cases second <;> exact afresh
  · cases found : state.lower.find? path with
    | none =>
        refine givenAfresh_of_misses compile fun below _ => ?_
        rw [memo_after_clear]
        cases below with
        | top => rfl
        | bottom => exact found
    | some table => exact givenFromMemory_of_lower compile rfl found
  · intro stacking layer offsets during issued answer cleared
    exact memo_load_of_cleared compile cleared

/-- A file that two layers remember is told of by another spelling; both layers are cleared; and the
lower layer is cleared while another file is read. -/
theorem load_after_clear_of_remembered :
    let file : Path := .ofString "a"
    let again : Path := .ofString "a/."
    let other : Path := .ofString "b"
    let remembered : Memo Bytes := ⟨[(file.components, [0x61])], 0⟩
    let state : State Memory Bytes := ⟨⟨[], some (.file [0x62])⟩, 1, remembered, remembered, []⟩
    let slow : Step := .load .top other [] [.clear .bottom]
    file ≈ again ∧
      GivenAfresh id .double file (.ok [0x62])
        (after id .double [.invalidate .top again] state) ∧
      Layer.top ≠ .bottom ∧
      GivenAfresh id .double file (.ok [0x62])
        (after id .double [.clear .top, .clear .bottom] state) ∧
      .ended (.clear .bottom) .nothing ∈ (slow.perform id .double state).log ∧
      memo .double .bottom (slow.perform id .double state).state = ⟨[], 1⟩ := by
  intro file again other remembered state slow
  have equal : file ≈ again := by decide
  have apart : Layer.top ≠ .bottom := by decide
  have inside : .ended (.clear .bottom) .nothing ∈ (slow.perform id .double state).log :=
    .tail _ (.tail _ (.head _))
  rcases load_after_clear id state file with ⟨told, _, both, _, _⟩
  rcases load_after_clear id state other with ⟨_, _, _, _, underway⟩
  exact ⟨equal, told .double again equal, apart, both .top .bottom apart, inside,
    underway .double .top [] [.clear .bottom] .bottom .nothing inside⟩

/-- A file is loaded, edited and loaded again, after the upper of two layers was cleared: the lower
one hands out what was read first. It does so too if that reading was still under way when the layer
was cleared. -/
theorem clear_of_upper_layer_keeps_lower_table :
    let file : Path := .ofString "a"
    let load : Step := .load .top file [] []
    let change : Step := .edit (.write file (.file [0x62]))
    let clear : Step := .clear .top
    let slow : Step := .load .top file [] [change, clear]
    let start : State Memory Bytes := ⟨⟨[], some (.file [0x61])⟩, 0, {}, {}, []⟩
    let aside : List (Event Bytes) := [.began change, .ended change .nothing, .began clear,
      .ended clear .nothing]
    let stale : List (Event Bytes) := [.began load, .noted (.tableRemembered file),
      .ended load (.table [0x61])]
    FileStore.read (after id .double [load, change, clear] start).files file = .ok [0x62] ∧
      (performAll id .double [load, change, clear, load] start).log =
        [.began load, .read file (.ok [0x61]), .ended load (.table [0x61])] ++ aside ++ stale ∧
      (performAll id .double [slow, load] start).log =
        [.began slow, .read file (.ok [0x61])] ++ aside ++
          [.noted (.tableOutdated file), .ended slow (.table [0x61])] ++ stale := by
  intro file load change clear slow start aside stale
  dsimp only [stale, aside, start, slow, clear, change, load, file]
  exact ⟨rfl, rfl, rfl⟩

end SourceDiagnostics.Offsets
