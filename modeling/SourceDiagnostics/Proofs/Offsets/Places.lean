import Mathlib.Data.Set.List
import SourceDiagnostics.Proofs.Offsets.CurrentTables
import SourceDiagnostics.Proofs.Offsets.Moments

/-!
The places that a memo has tables for. What holds of every memo that tables are put into and taken
out of one by one holds of every layer throughout a history (`performAll_retains`); so each layer has
one table for a place, and its size is the number of places (`Memo.Placed`).
-/

namespace SourceDiagnostics

namespace Memo

variable {τ : Type} {memo : Memo τ}

structure Placed (memo : Memo τ) : Prop where
  distinct : memo.places.Nodup
  named : ∀ place ∈ memo.places, ∃ path : Path, path.components = place

/-- What a memo keeps, whatever is done with it. -/
structure Lasting (holds : Memo τ → Prop) : Prop where
  insert : ∀ memo path table, holds memo → holds (memo.insert path table)
  forget : ∀ memo path, holds memo → holds (memo.forget path)
  clear : ∀ memo, holds memo → holds memo.clear

theorem places_filter (tables : List (Path.Components × τ)) (place : Path.Components) :
    (tables.filter (·.1 != place)).map (·.1) = (tables.map (·.1)).filter (· != place) := by
  rw [List.filter_map]
  rfl

theorem places_insert (memo : Memo τ) (path : Path) (table : τ) :
    (memo.insert path table).places =
      path.components :: memo.places.filter (· != path.components) := by
  rw [places, insert, List.map_cons, places_filter, ← places]

theorem places_forget (memo : Memo τ) (path : Path) :
    (memo.forget path).places = memo.places.filter (· != path.components) :=
  places_filter memo.tables path.components

theorem mem_places_iff (memo : Memo τ) (path : Path) :
    path.components ∈ memo.places ↔ (memo.find? path).isSome := by
  rw [places, find?]
  induction memo.tables with
  | nil => simp
  | cons head tail induction =>
      rcases head with ⟨place, table⟩
      by_cases same : path.components = place
      · simp [same]
      · simp [same, List.lookup_cons, beq_eq_false_iff_ne.mpr same, ← induction]

theorem isEmpty_iff_size_eq_zero (memo : Memo τ) : memo.isEmpty = true ↔ memo.size = 0 := by
  rw [isEmpty, size, List.isEmpty_iff_length_eq_zero]

theorem placed_lasting : Lasting (Placed : Memo τ → Prop) where
  insert memo path table placed := by
    constructor
    · rw [places_insert, List.nodup_cons]
      exact ⟨by simp, placed.distinct.filter _⟩
    · intro place member
      rw [places_insert] at member
      rcases List.mem_cons.mp member with rfl | earlier
      · exact ⟨path, rfl⟩
      · exact placed.named place (List.mem_filter.mp earlier).left
  forget memo path placed := by
    constructor
    · rw [places_forget]
      exact placed.distinct.filter _
    · intro place member
      rw [places_forget] at member
      exact placed.named place (List.mem_filter.mp member).left
  clear _ _ := ⟨List.nodup_nil, fun _ member => absurd member List.not_mem_nil⟩

theorem placed_empty : Placed ({} : Memo τ) :=
  ⟨List.nodup_nil, fun _ member => absurd member List.not_mem_nil⟩

/-- The size of a memo is the number of places that it has a table for: there are that many paths,
no two of which lead to the same place, that stand for all paths that a table is found for. -/
theorem Placed.exists_paths (placed : memo.Placed) :
    ∃ paths : List Path, paths.length = memo.size ∧ paths.Pairwise (¬ · ≈ ·) ∧
      ∀ path, (memo.find? path).isSome ↔ ∃ other ∈ paths, path ≈ other := by
  have named : memo.places ∈ Set.range (List.map Path.components) := by
    rw [Set.range_list_map]
    exact placed.named
  rcases named with ⟨paths, same⟩
  refine ⟨paths, ?_, ?_, ?_⟩
  · rw [size, ← List.length_map Path.components, same, places, List.length_map]
  · have distinct := placed.distinct
    rw [← same, List.Nodup, List.pairwise_map] at distinct
    exact distinct
  · intro path
    rw [← mem_places_iff, ← same, List.mem_map]
    simp only [Path.equiv_iff, eq_comm]

end Memo

namespace Offsets

open Memo

variable {φ τ : Type} {stacking : Stacking} {holds : Memo τ → Prop}

/-! What a memo keeps, every layer keeps in the course of a history. -/

def Holds (holds : Memo τ → Prop) (stacking : Stacking) (state : State φ τ) : Prop :=
  ∀ layer, holds (memo stacking layer state)

def Retains (holds : Memo τ → Prop) (stacking : Stacking) (state : State φ τ)
    (_ : List (Event τ)) (final : State φ τ) : Prop :=
  Holds holds stacking state → Holds holds stacking final

theorem retains_sequential : Sequential
    (Retains holds stacking : State φ τ → List (Event τ) → State φ τ → Prop) where
  refl _ := id
  trans front back := back ∘ front

theorem Holds.set {state : State φ τ} (held : Holds holds stacking state) (layer : Layer)
    {part : Memo τ} (kept : holds part) :
    Holds holds stacking ((State.slot stacking layer).set part state) := by
  intro other
  rw [memo_set]
  split
  · exact kept
  · exact held other

theorem Holds.of_same {state final : State φ τ} (held : Holds holds stacking state)
    (lower : final.lower = state.lower) (upper : final.upper = state.upper) :
    Holds holds stacking final := by
  intro layer
  have same : memo stacking layer final = memo stacking layer state := by
    cases stacking <;> cases layer <;> first | exact lower | exact upper
  rw [same]
  exact held layer

theorem layered_retains (lasting : Lasting holds) (layer : Layer)
    {base : Provider (Event τ) (State φ τ) τ}
    (retains : ∀ path, (base.load path).Traces (Retains holds stacking)) (path : Path) :
    ((layered stacking layer base).load path).Traces (Retains holds stacking) := by
  apply layered_traces retains_sequential (fun _ _ => id) _ retains
  intro layer path table state between log _ kept held
  exact (kept held).set layer (lasting.insert _ path table (kept held layer))

variable [FileStore φ]

theorem files_retains (compile : Bytes → τ) {during : Action (Event τ) (State φ τ) Empty Unit}
    (retains : during.Traces (Retains holds stacking)) (path : Path) :
    ((files compile during).load path).Traces (Retains holds stacking) := by
  intro state held
  rw [load_files]
  exact retains _ (held.of_same rfl rfl)

theorem take_retains (lasting : Lasting holds) (compile : Bytes → τ) (stacking : Stacking)
    (step : Step) (happens : (performAll compile stacking step.during :
      Action (Event τ) (State φ τ) Empty Unit).Traces (Retains holds stacking)) :
    (step.take compile stacking : Action (Event τ) (State φ τ) Empty Unit).Traces
      (Retains holds stacking) := by
  intro state held
  have asking {layer : Layer} {path : Path} (asks : step.target? = some (layer, path)) :
      Holds holds stacking (step.take compile stacking state).state := by
    have kept := layered_retains lasting layer (files_retains compile happens) path state held
    rcases layered_calm stacking layer
      (files_calm compile (performAll_returns compile stacking step.during)) path state with
      ⟨result, final, log, loaded⟩
    rcases perform_asked asks loaded with ⟨put_aside, performed, same⟩
    rw [loaded] at kept
    rw [take_apply performed]
    intro other
    rw [same]
    exact kept other
  cases step with
  | edit edit => exact held.of_same rfl rfl
  | held | census => exact held
  | load | hold => exact asking rfl
  | invalidate issued path =>
      rcases perform_invalidate compile stacking issued path state with ⟨final, performed, memos⟩
      rw [take_apply performed]
      intro layer
      rw [memos]
      split
      · exact lasting.forget _ path (held layer)
      · exact held layer
  | clear issued =>
      rcases perform_clear compile stacking issued state with ⟨final, performed, memos⟩
      rw [take_apply performed]
      intro layer
      rw [memos]
      split
      · exact lasting.clear _ (held layer)
      · exact held layer

theorem performAll_retains (lasting : Lasting holds) (compile : Bytes → τ) (stacking : Stacking)
    (steps : List Step) :
    (performAll compile stacking steps : Action (Event τ) (State φ τ) Empty Unit).Traces
      (Retains holds stacking) :=
  steps_traces retains_sequential (take_retains lasting compile stacking) steps

theorem Reaches.retains {compile : Bytes → τ} {steps left : List Step} {state moment : State φ τ}
    {log : List (Event τ)} (reached : Reaches compile stacking steps state log left moment)
    (lasting : Lasting holds) : Retains holds stacking state log moment := by
  refine reached.traces retains_sequential (fun step => ?_) ?_
  · exact take_retains lasting compile stacking step
      (performAll_retains lasting compile stacking step.during)
  · exact fun _ _ _ _ _ held => held.of_same rfl rfl

end Offsets

end SourceDiagnostics
