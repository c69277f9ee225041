import SourceDiagnostics.Proofs.Offsets.CurrentTables
import SourceDiagnostics.Proofs.Offsets.Moments
import SourceDiagnostics.Session

/-!
The tables of a session. Loads never change the files. A load of a path that no layer remembers
reads the file; and what is remembered after a load was read by it, or remembered before
(`Carries`), so once a file was said to have changed, no table of it is left but those that are read
from then on.
-/

namespace SourceDiagnostics

theorem Provider.load_map_of_loaded {ε σ τ ρ : Type} {provider : Provider ε σ τ} {path : Path}
    {state final : σ} {result : Except FileError τ} {log : List ε} (convert : τ → ρ)
    (loaded : provider.load path state = ⟨.ofExcept result, final, log⟩) :
    (provider.map convert).load path state = ⟨.ofExcept (result.map convert), final, log⟩ := by
  change (convert <$> provider.load path) state = _
  rw [Action.map_apply]
  cases result with
  | ok table => simp [Action.bind_apply_of_returned loaded, Outcome.ofExcept, Except.map]
  | error error => exact Action.bind_apply_of_failed loaded

namespace Offsets

variable {φ τ : Type} {stacking : Stacking} {path : Path} {table : τ} {state final : State φ τ}

/-! Loads do not change the files. -/

def SameFiles (state : State φ τ) (_ : List (Event τ)) (final : State φ τ) : Prop :=
  final.files = state.files

theorem sameFiles_sequential :
    Sequential (SameFiles : State φ τ → List (Event τ) → State φ τ → Prop) where
  refl _ := rfl
  trans front back := back.trans front

theorem layered_sameFiles (stacking : Stacking) (layer : Layer)
    {base : Provider (Event τ) (State φ τ) τ} (traces : ∀ path, (base.load path).Traces SameFiles)
    (path : Path) : ((layered stacking layer base).load path).Traces SameFiles := by
  apply layered_traces sameFiles_sequential (fun _ _ => rfl) _ traces
  intro layer path table state between log _ same
  cases stacking <;> cases layer <;> exact same

def Held (stacking : Stacking) (path : Path) (table : τ) (state : State φ τ) : Prop :=
  ∃ layer, (memo stacking layer state).find? path = some table

/-- Where a table comes from that there is for a path at the end of a log: it was read on the way,
or it was remembered already, and its file was not said to have changed since. -/
inductive Sourced (stacking : Stacking) (path : Path) (table : τ) (state : State φ τ)
    (log : List (Event τ)) : Prop
  | read (spelled : Path) (equal : spelled ≈ path) (member : .read spelled (.ok table) ∈ log)
  | remained (held : Held stacking path table state)
      (untold : ∀ spelled, .forgotten spelled ∈ log → ¬ spelled ≈ path)

def Carries (stacking : Stacking) (path : Path) (state : State φ τ) (log : List (Event τ))
    (final : State φ τ) : Prop :=
  ∀ table, Held stacking path table final → Sourced stacking path table state log

theorem Sourced.append {log later : List (Event τ)}
    (sourced : Sourced stacking path table state log)
    (untold : ∀ spelled, .forgotten spelled ∈ later → ¬ spelled ≈ path) :
    Sourced stacking path table state (log ++ later) := by
  cases sourced with
  | read spelled equal member => exact .read spelled equal (List.mem_append_left _ member)
  | remained held untold' =>
      refine .remained held fun spelled member => ?_
      exact (List.mem_append.mp member).elim (untold' spelled) (untold spelled)

theorem carries_sequential (stacking : Stacking) (path : Path) :
    Sequential (Carries stacking path : State φ τ → List (Event τ) → State φ τ → Prop) where
  refl _ _ held := .remained held fun _ member => absurd member List.not_mem_nil
  trans front back table held := by
    cases back table held with
    | read spelled equal member => exact .read spelled equal (List.mem_append_right _ member)
    | remained held untold => exact (front table held).append untold

theorem Carries.of_same {log : List (Event τ)}
    (same : ∀ layer, memo stacking layer final = memo stacking layer state)
    (untold : ∀ spelled, .forgotten spelled ∈ log → ¬ spelled ≈ path) :
    Carries stacking path state log final := by
  intro table held
  rcases held with ⟨layer, found⟩
  rw [same] at found
  exact .remained ⟨layer, found⟩ untold

/-- A provider whose tables come from where they may. -/
structure Brings (stacking : Stacking) (path : Path) (provider : Provider (Event τ) (State φ τ) τ) :
    Prop where
  carries : ∀ spelled, (provider.load spelled).Traces (Carries stacking path)
  sourced : ∀ spelled state table, spelled ≈ path →
    (provider.load spelled state).outcome = .returned table →
      Sourced stacking path table state (provider.load spelled state).log

theorem not_forgotten_of_note {note : Note} {spelled : Path} :
    .forgotten spelled ∉ [(NoteLog.note note : Event τ)] := by
  intro member
  cases List.mem_singleton.mp member

theorem remembering_brings (layer : Layer) {inner : Provider (Event τ) (State φ τ) τ}
    (brings : Brings stacking path inner) :
    Brings stacking path (.remembering (State.slot stacking layer) inner) := by
  have noted (note : Note) (spelled : Path) (member : .forgotten spelled ∈
      [(NoteLog.note note : Event τ)]) : ¬ spelled ≈ path :=
    absurd member not_forgotten_of_note
  constructor
  · intro spelled state
    have kept := brings.carries spelled state
    have sourced := brings.sourced spelled state
    have run := Provider.load_remembering (State.slot stacking layer) inner spelled state
    generalize Provider.load _ spelled state = ran at run ⊢
    cases run with
    | hit table found => exact .of_same (fun _ => rfl) (noted _)
    | stored table between log missing loaded unmoved =>
        rw [loaded] at kept sourced
        intro other held
        rcases held with ⟨below, found⟩
        rw [memo_set] at found
        split at found
        · rw [Memo.find?_insert] at found
          split at found
          · next equal =>
            cases found
            exact sourced table (Setoid.symm equal) rfl
          · exact kept other ⟨layer, found⟩
        · exact kept other ⟨below, found⟩
    | outdated table between log missing loaded moved =>
        rw [loaded] at kept
        exact fun other held => (kept other held).append (noted _)
    | failed error between log missing loaded => rwa [loaded] at kept
    | panicked message between log missing loaded => rwa [loaded] at kept
  · intro spelled state table equal returned
    have sourced := brings.sourced spelled state table equal
    have run := Provider.load_remembering (State.slot stacking layer) inner spelled state
    generalize Provider.load _ spelled state = ran at run returned ⊢
    cases run with
    | hit table' found =>
        cases returned
        rw [Memo.find?_congr _ equal] at found
        exact .remained ⟨layer, found⟩ (noted _)
    | stored table' between log missing loaded unmoved =>
        cases returned
        rw [loaded] at sourced
        exact sourced rfl
    | outdated table' between log missing loaded moved =>
        cases returned
        rw [loaded] at sourced
        exact (sourced rfl).append (noted _)
    | failed error between log missing loaded => cases returned
    | panicked message between log missing loaded => cases returned

theorem layered_brings {base : Provider (Event τ) (State φ τ) τ}
    (brings : Brings stacking path base) (layer : Layer) :
    Brings stacking path (layered stacking layer base) := by
  cases stacking with
  | single => cases layer <;> exact remembering_brings .bottom brings
  | double =>
      have lower := remembering_brings .bottom brings
      cases layer with
      | bottom => exact lower
      | top => exact remembering_brings .top lower

variable [FileStore φ]

theorem load_files_alone (compile : Bytes → τ) (path : Path) (state : State φ τ) :
    (files compile (pure ())).load path state =
      ⟨.ofExcept ((FileStore.read state.files path).map compile),
        { state with reads := state.reads + 1 },
        [.read path ((FileStore.read state.files path).map compile)]⟩ :=
  load_files_of_returns compile pure_returns path state

theorem files_brings (compile : Bytes → τ) :
    Brings stacking path (files compile (pure ()) : Provider (Event τ) (State φ τ) τ) := by
  constructor
  · intro spelled state
    rw [load_files_alone]
    apply Carries.of_same
    · intro layer
      cases stacking <;> cases layer <;> rfl
    · intro other member
      cases List.mem_singleton.mp member
  · intro spelled state table equal returned
    rw [load_files_alone] at returned ⊢
    cases result : (FileStore.read state.files spelled).map compile with
    | ok found =>
        rw [result] at returned
        cases returned
        exact .read spelled equal List.mem_cons_self
    | error error =>
        rw [result] at returned
        cases returned

end Offsets

namespace Session

open Offsets

variable {ε φ τ : Type} [FileStore φ] (session : Session ε φ τ)

theorem tables_calm (memory : Option Stacking) (layer : Layer) :
    (session.tables memory layer : Provider _ (State φ τ) τ).Calm := by
  have direct : (files session.compile (pure ()) : Provider _ (State φ τ) τ).Calm :=
    files_calm session.compile pure_returns
  cases memory with
  | none => exact direct
  | some stacking => exact layered_calm stacking layer direct

theorem tables_load_files (memory : Option Stacking) (layer : Layer) (path : Path)
    (state : State φ τ) :
    ((session.tables memory layer).load path state).state.files = state.files := by
  have direct (path : Path) :
      ((files session.compile (pure ()) : Provider _ (State φ τ) τ).load path).Traces
        SameFiles := by
    intro state
    rw [load_files_alone]
    rfl
  cases memory with
  | none => exact direct path state
  | some stacking => exact layered_sameFiles stacking layer direct path state

theorem tables_invalidate (memory : Option Stacking) (layer : Layer) (path : Path)
    (state : State φ τ) :
    ∃ final, (session.tables memory layer).invalidate path state =
      ⟨.returned (), final, [.forgotten path]⟩ ∧ final.files = state.files := by
  cases memory with
  | none => exact ⟨_, rfl, rfl⟩
  | some stacking => cases stacking <;> cases layer <;> exact ⟨_, rfl, rfl⟩

theorem memo_after_invalidate (stacking : Stacking) (path : Path) (layer : Layer)
    (state : State φ τ) :
    memo stacking layer ((session.tables (some stacking) .top).invalidate path state).state =
      (memo stacking layer state).forget path := by
  cases stacking <;> cases layer <;> rfl

theorem tables_load_of_misses {stacking : Stacking} {layer : Layer} {path : Path}
    {state : State φ τ} (misses : Misses stacking layer path state) :
    ∃ final log, (session.tables (some stacking) layer).load path state =
      ⟨.ofExcept ((FileStore.read state.files path).map session.compile), final, log⟩ := by
  rcases layered_of_misses misses (load_files_alone session.compile path state) with
    ⟨final, notes, loaded, _⟩
  exact ⟨final, _, loaded⟩

theorem misses_after_invalidate (stacking : Stacking) (path : Path) (state : State φ τ) :
    Misses stacking .top path
      ((session.tables (some stacking) .top).invalidate path state).state := by
  intro layer _
  rw [memo_after_invalidate, Memo.find?_forget, if_pos (Setoid.refl path)]

/-! What tables are left for a path. -/

theorem load_carries (stacking : Stacking) (layer : Layer) (path spelled : Path) :
    ((session.tables (some stacking) layer : Provider _ (State φ τ) τ).load spelled).Traces
      (Carries stacking path) :=
  (layered_brings (files_brings session.compile) layer).carries spelled

theorem invalidate_carries (stacking : Stacking) (path spelled : Path) (state : State φ τ) :
    Carries stacking path state [.forgotten spelled]
      ((session.tables (some stacking) .top).invalidate spelled state).state := by
  intro table held
  rcases held with ⟨layer, found⟩
  rw [memo_after_invalidate, Memo.find?_forget] at found
  split at found
  · cases found
  · next unlike =>
    refine .remained ⟨layer, found⟩ fun other member equal => ?_
    cases List.mem_singleton.mp member
    exact unlike (Setoid.symm equal)

end Session

end SourceDiagnostics
