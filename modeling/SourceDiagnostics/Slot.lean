/-!
Slots: one part of a larger state that can be read and replaced on its own.
-/

namespace SourceDiagnostics

/-- A part `α` of a state `σ`. What was put there is found there, and nothing else changes. -/
structure Slot (σ α : Type) where
  get : σ → α
  set : α → σ → σ
  get_set : ∀ part state, get (set part state) = part
  set_get : ∀ state, set (get state) state = state
  set_set : ∀ first second state, set second (set first state) = set second state

def Slot.update {σ α : Type} (slot : Slot σ α) (change : α → α) (state : σ) : σ :=
  slot.set (change (slot.get state)) state

theorem Slot.get_update {σ α : Type} (slot : Slot σ α) (change : α → α) (state : σ) :
    slot.get (slot.update change state) = change (slot.get state) :=
  slot.get_set _ _

end SourceDiagnostics
