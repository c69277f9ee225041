import SourceDiagnostics.Files.Memory
import SourceDiagnostics.Proofs.Offsets.ExactMemo

/-!
How long a table stays. A table that is remembered stays until it is out of date, as far as steps
are concerned that begin later (`table_stays_for_later_steps`). A load that was under way already
when the table was stored can still replace it when it comes to an end, and what it read may be
older (`stored_table_replaced_by_older_reading`).
-/

namespace SourceDiagnostics.Offsets

variable {φ τ : Type} {path : Path} {table : τ} {state : State φ τ}

def Stays (path : Path) (table : τ) (state : State φ τ) (log : List (Event τ))
    (final : State φ τ) : Prop :=
  Untouched path log → state.lower.find? path = some table → final.lower.find? path = some table

theorem Untouched.of_subset {log part : List (Event τ)} (untouched : Untouched path log)
    (subset : part ⊆ log) : Untouched path part :=
  fun step answer member => untouched step answer (subset member)

theorem stays_sequential : Sequential
    (Stays path table : State φ τ → List (Event τ) → State φ τ → Prop) where
  refl _ _ found := found
  trans front back untouched found :=
    back (untouched.of_subset (List.subset_append_right _ _))
      (front (untouched.of_subset (List.subset_append_left _ _)) found)

variable [FileStore φ]

theorem files_stays (compile : Bytes → τ) {during : Action (Event τ) (State φ τ) Empty Unit}
    (stays : during.Traces (Stays path table)) (spelled : Path) :
    ((files compile during).load spelled).Traces (Stays path table) := by
  intro state untouched found
  rw [load_files] at untouched ⊢
  exact stays _ (untouched.of_subset (List.subset_cons_self _ _)) found

theorem layered_stays (compile : Bytes → τ) {during : Action (Event τ) (State φ τ) Empty Unit}
    (stays : during.Traces (Stays path table)) (layer : Layer) (spelled : Path) :
    ((layered .single layer (files compile during)).load spelled).Traces (Stays path table) := by
  apply layered_traces stays_sequential (fun _ _ _ found => found) _ (files_stays compile stays)
  intro layer spelled other state between log missing kept untouched found
  change state.lower.find? spelled = none at missing
  change (Memo.insert spelled other between.lower).find? path = some table
  rw [Memo.find?_insert, if_neg, kept untouched found]
  intro equal
  rw [state.lower.find?_congr equal, missing] at found
  cases found

theorem take_stays (compile : Bytes → τ) (step : Step)
    (happens : (performAll compile .single step.during :
      Action (Event τ) (State φ τ) Empty Unit).Traces (Stays path table)) :
    (step.take compile .single : Action (Event τ) (State φ τ) Empty Unit).Traces
      (Stays path table) := by
  intro state untouched found
  have asking {layer : Layer} {spelled : Path} (asks : step.target? = some (layer, spelled)) :
      (step.take compile .single state).state.lower.find? path = some table := by
    have kept := layered_stays compile happens layer spelled state
    rcases layered_calm .single layer
      (files_calm compile (performAll_returns compile .single step.during)) spelled state with
      ⟨result, final, log, loaded⟩
    rcases perform_asked asks loaded with ⟨put_aside, performed, same⟩
    have lower : put_aside.lower = final.lower := same .bottom
    rw [loaded] at kept
    rw [take_apply performed] at untouched ⊢
    rw [lower]
    exact kept (untouched.of_subset fun _ member => by simp [member]) found
  cases step with
  | edit | held | census => exact found
  | load | hold => exact asking rfl
  | invalidate issued other =>
      rcases perform_invalidate_single compile issued other state with ⟨final, performed, lower⟩
      rw [take_apply performed] at untouched ⊢
      rw [lower, Memo.find?_forget, if_neg, found]
      intro equal
      have spared := untouched (.invalidate issued other) .nothing (by simp)
      exact spared ⟨rfl, equal⟩
  | clear issued =>
      rcases perform_clear_single compile issued state with ⟨final, performed, _⟩
      rw [take_apply performed] at untouched
      exact absurd (outdates_clear issued path) (untouched (.clear issued) .nothing (by simp))

theorem performAll_stays (compile : Bytes → τ) (steps : List Step) :
    (performAll compile .single steps : Action (Event τ) (State φ τ) Empty Unit).Traces
      (Stays path table) :=
  steps_traces stays_sequential (take_stays compile) steps

theorem Reaches.stays {compile : Bytes → τ} {steps left : List Step} {moment : State φ τ}
    {log : List (Event τ)} (reached : Reaches compile .single steps state log left moment) :
    Stays path table state log moment := by
  refine reached.traces stays_sequential (fun step => ?_) ?_
  · exact take_stays compile step (performAll_stays compile step.during)
  · exact fun _ _ _ _ _ _ found => found

/-- Once a table is remembered for a path, every step that asks for a table of the path is given
this one, at whatever depth, if it begins among the steps that are left then and before the table
is out of date. -/
theorem table_stays_for_later_steps (compile : Bytes → τ) (steps : List Step) (files : φ)
    {past log : List (Event τ)} {left rest : List Step} {moment later : State φ τ} {step : Step}
    {layer : Layer} {spelled : Path}
    (reached : Reaches compile .single steps ⟨files, 0, {}, {}, []⟩ past left moment)
    (found : moment.lower.find? path = some table)
    (further : Reaches compile .single left moment log (step :: rest) later)
    (untouched : Untouched path log) (asks : step.target? = some (layer, spelled))
    (equal : spelled ≈ path) :
    LastStored past path table ∧
      (step.perform compile .single later).outcome = .returned (.table table) ∧
      (step.perform compile .single later).log = [.noted (.tableRemembered spelled)] := by
  have stays := further.stays untouched found
  rw [← later.lower.find?_congr equal] at stays
  rcases perform_of_found compile step asks stays with ⟨final, performed⟩
  rw [performed]
  exact ⟨(reached.preserves [] exact_empty).stored path table found, rfl, rfl⟩

/-- A table is stored while another file is read. Then its file is edited, and is loaded by another
name while a third file is read. -/
theorem table_stays_for_nested_load :
    let file : Path := .ofString "a"
    let again : Path := .ofString "a/."
    let first : Step := .load .top file [] []
    let change : Step := .edit (.write file (.file [0x62]))
    let last : Step := .load .top again [] []
    let third : Step := .load .top (.ofString "c") [] [last]
    let outer : Step := .load .top (.ofString "b") [] [first, change, third]
    let store : Memory := ⟨[], some (.file [0x61])⟩
    let edited : Memory := ⟨[(file, .file [0x62])], some (.file [0x61])⟩
    let memo : Memo Bytes := ⟨[(file.components, [0x61])], 0⟩
    let past : List (Event Bytes) :=
      [.began outer, .read (.ofString "b") (.ok [0x61]), .began first, .read file (.ok [0x61]),
        .ended first (.table [0x61])]
    let log : List (Event Bytes) :=
      [.began change, .ended change .nothing, .began third, .read (.ofString "c") (.ok [0x61])]
    Reaches id .single [outer] ⟨store, 0, {}, {}, []⟩ past [change, third] ⟨store, 2, memo, {}, []⟩ ∧
      Reaches id .single [change, third] ⟨store, 2, memo, {}, []⟩ log [last]
        ⟨edited, 3, memo, {}, []⟩ ∧
      Untouched file log ∧
      (last.perform id .single (⟨edited, 3, memo, {}, []⟩ : State Memory Bytes)).outcome =
        .returned (.table [0x61]) := by
  intro file again first change last third outer store edited memo past log
  have reached : Reaches id .single [outer] ⟨store, 0, {}, {}, []⟩ past [change, third]
      ⟨store, 2, memo, {}, []⟩ := .within (fun _ _ => rfl) (.beyond (.here _ _))
  have further : Reaches id .single [change, third] ⟨store, 2, memo, {}, []⟩ log [last]
      ⟨edited, 3, memo, {}, []⟩ := .beyond (.within (fun _ _ => rfl) (.here _ _))
  have untouched : Untouched file log := by
    intro step answer member
    have ended : step = change ∧ answer = .nothing := by simpa [log] using member
    rw [ended.left]
    exact not_outdates_of_not_forgets rfl
  have stays := table_stays_for_later_steps id [outer] store reached rfl further untouched rfl
    (by decide : again ≈ file)
  exact ⟨reached, further, untouched, stays.right.left⟩

/-- A file is edited while it is read, and loaded again; a later load finds the new table. Then the
first load comes to an end, and puts the old table in place of the new one, so the next load goes
back to that, although the file was not said to have changed. -/
theorem stored_table_replaced_by_older_reading :
    let file : Path := .ofString "a"
    let change : Step := .edit (.write file (.file [0x62]))
    let again : Step := .load .top file [] []
    let outer : Step := .load .top file [] [change, again, again]
    let store : Memory := ⟨[], some (.file [0x61])⟩
    let edited : Memory := ⟨[(file, .file [0x62])], some (.file [0x61])⟩
    let moment : State Memory Bytes := ⟨edited, 2, ⟨[(file.components, [0x61])], 0⟩, {}, []⟩
    let before : List (Event Bytes) :=
      [.began outer, .read file (.ok [0x61]), .began change, .ended change .nothing,
        .began again, .read file (.ok [0x62]), .ended again (.table [0x62])]
    let after : List (Event Bytes) :=
      [.began again, .noted (.tableRemembered file), .ended again (.table [0x62]),
        .ended outer (.table [0x61])]
    Reaches id .single [outer, again] ⟨store, 0, {}, {}, []⟩ (before ++ after) [again] moment ∧
      Stores (before ++ after) file [0x62] after ∧ Undisturbed (before ++ after) ∧
      (again.perform id .single moment).outcome = .returned (.table [0x61]) := by
  intro file change again outer store edited moment before after
  let between : State Memory Bytes := ⟨edited, 2, ⟨[(file.components, [0x62])], 0⟩, {}, []⟩
  let happened : List (Event Bytes) :=
    [.began change, .ended change .nothing, .began again, .read file (.ok [0x62]),
      .ended again (.table [0x62]), .began again, .noted (.tableRemembered file),
      .ended again (.table [0x62])]
  have during : performAll id .single [change, again, again]
      (⟨store, 1, {}, {}, []⟩ : State Memory Bytes) = ⟨.returned (), between, happened⟩ := rfl
  have below : (files id (performAll id .single [change, again, again])).load file
      (⟨store, 0, {}, {}, []⟩ : State Memory Bytes) =
        ⟨.ofExcept (.ok [0x61]), between, .read file (.ok [0x61]) :: happened⟩ := by
    rw [load_files]
    dsimp only
    rw [during]
    rfl
  have loaded : (layered .single .top
      (files id (performAll id .single [change, again, again]))).load file
        (⟨store, 0, {}, {}, []⟩ : State Memory Bytes) =
          ⟨.ofExcept (.ok [0x61]), moment, .read file (.ok [0x61]) :: happened⟩ :=
    Provider.load_remembering_of_loaded below
  have taken : outer.take id .single ⟨store, 0, {}, {}, []⟩ =
      ⟨.returned (), moment, before ++ after⟩ := take_apply (perform_load loaded [])
  have reached : Reaches id .single [outer, again] ⟨store, 0, {}, {}, []⟩
      ((outer.take id .single ⟨store, 0, {}, {}, []⟩).log ++ []) [again]
      (outer.take id .single ⟨store, 0, {}, {}, []⟩).state := .beyond (.here _ _)
  rw [taken, List.append_nil] at reached
  refine ⟨reached, ?_, ?_, rfl⟩
  · have took : Took (before ++ after)
        [.began outer, .read file (.ok [0x61]), .began change, .ended change .nothing] again
        [.read file (.ok [0x62])] (.table [0x62]) after := ⟨rfl, .single rfl⟩
    refine ⟨_, again, _, _, took, ?_⟩
    refine ⟨⟨.top, file, [], rfl, Setoid.refl file, rfl⟩, rfl, ?_⟩
    intro step answer member
    cases List.mem_singleton.mp member
  · rw [undisturbed_iff_countP]
    rfl

end SourceDiagnostics.Offsets
