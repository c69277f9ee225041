import SourceDiagnostics.Offsets.History
import SourceDiagnostics.Validator

/-!
Sessions: requests that are answered one after the other while the files change. Tables come
straight from the files, or through layers of memory, which can be used, told of changes and cleared
between the requests as well. All other services act on the files and on whatever else there is
beside the memory; of the memory they know nothing.
-/

namespace SourceDiagnostics

namespace Action

variable {ε δ σ ρ φ α : Type}

def within (slot : Slot σ ρ) (action : Action ε ρ φ α) : Action ε σ φ α := fun state =>
  let ran := action (slot.get state)
  ⟨ran.outcome, slot.set ran.state state, ran.log⟩

def writing (write : ε → δ) (action : Action ε σ φ α) : Action δ σ φ α := fun state =>
  let ran := action state
  ⟨ran.outcome, ran.state, ran.log.map write⟩

@[simp] theorem within_apply (slot : Slot σ ρ) (action : Action ε ρ φ α) (state : σ) :
    action.within slot state =
      ⟨(action (slot.get state)).outcome, slot.set (action (slot.get state)).state state,
        (action (slot.get state)).log⟩ := rfl

@[simp] theorem writing_apply (write : ε → δ) (action : Action ε σ φ α) (state : σ) :
    action.writing write state =
      ⟨(action state).outcome, (action state).state, (action state).log.map write⟩ := rfl

end Action

def Provider.writing {ε δ σ τ : Type} (write : ε → δ) (provider : Provider ε σ τ) :
    Provider δ σ τ where
  load path := (provider.load path).writing write
  invalidate path := (provider.invalidate path).writing write

open Offsets

structure Session (ε φ τ : Type) where
  others : Services ε φ
  compile : Bytes → τ
  resolve : τ → Resolver

namespace Session

/-- What can be done in a session: a request is answered; the files change, or something else
beside the memory; or the tables are loaded, told of a change, or cleared by somebody else. -/
inductive Visit (φ : Type) where
  | request (config : Config) (request : Request)
  | change (change : φ → φ)
  | load (layer : Layer) (path : Path)
  | invalidate (layer : Layer) (path : Path)
  | clear (layer : Layer)

variable {ε φ τ : Type} [FileStore φ]

/-- The tables of a session: straight from the files, or through layers of memory. -/
def tables (session : Session ε φ τ) (memory : Option Stacking) (layer : Layer) :
    Provider (Offsets.Event τ) (State φ τ) τ :=
  let base := files session.compile (pure ())
  match memory with
  | none => base
  | some stacking => layered stacking layer base

def services (session : Session ε φ τ) (memory : Option Stacking) :
    Services (ε ⊕ Offsets.Event τ) (State φ τ) :=
  Services.withOffsets (fun call => ((session.others call).within State.filesSlot).writing .inl)
    (((session.tables memory .top).writing .inr).map session.resolve)

def validator (session : Session ε φ τ) (memory : Option Stacking) (config : Config) :
    Validator (ε ⊕ Offsets.Event τ) (State φ τ) :=
  ⟨session.services memory, config⟩

/-- The state after something was done, whatever came of it. Where there is no memory, there is
nothing to clear. -/
def visit (session : Session ε φ τ) (memory : Option Stacking) (state : State φ τ) :
    Visit φ → State φ τ
  | .request config request => ((session.validator memory config).run request state).state
  | .change change => { state with files := change state.files }
  | .load layer path => ((session.tables memory layer).load path state).state
  | .invalidate layer path => ((session.tables memory layer).invalidate path state).state
  | .clear layer => memory.elim state fun stacking =>
      (State.slot stacking layer).update Memo.clear state

def after (session : Session ε φ τ) (memory : Option Stacking) (files : φ)
    (visits : List (Visit φ)) : State φ τ :=
  visits.foldl (session.visit memory) ⟨files, 0, {}, {}, []⟩

end Session

end SourceDiagnostics
