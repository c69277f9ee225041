import SourceDiagnostics.Action
import SourceDiagnostics.FileError
import SourceDiagnostics.Note
import SourceDiagnostics.Offsets.Memo
import SourceDiagnostics.Slot

/-!
Providers hand out the line table of a file, and are told when a file has changed. One provider
can remember the tables of another (`Provider.remembering`); it is again a provider, so layers of
memory can be stacked.
-/

namespace SourceDiagnostics

class NoteLog (ε : Type) where
  note : Note → ε

def Action.note {ε σ φ : Type} [NoteLog ε] (note : Note) : Action ε σ φ Unit :=
  .emit (NoteLog.note note)

structure Provider (ε σ τ : Type) where
  load : Path → Action ε σ FileError τ
  invalidate : Path → Action ε σ Empty Unit

namespace Provider

variable {ε σ τ : Type}

def map {ρ : Type} (convert : τ → ρ) (provider : Provider ε σ τ) : Provider ε σ ρ where
  load path := convert <$> provider.load path
  invalidate := provider.invalidate

/-- The provider that remembers the tables of another in a memo. A table whose load saw the memo
forget something is handed to whoever asked for it, and is not remembered. -/
def remembering [NoteLog ε] (slot : Slot σ (Memo τ)) (inner : Provider ε σ τ) :
    Provider ε σ τ where
  load path := do
    let before ← Action.gets slot.get
    match before.find? path with
    | some table =>
        Action.note (.tableRemembered path)
        return table
    | none =>
        let table ← inner.load path
        let after ← Action.gets slot.get
        if after.generation = before.generation then
          Action.modify (slot.set (after.insert path table))
        else
          Action.note (.tableOutdated path)
        return table
  invalidate path := do
    Action.modify (slot.update (Memo.forget path))
    inner.invalidate path

end Provider

/-- Forgets everything in one layer of memory. The layers below are not told. -/
def Memo.clearAt {ε σ φ τ : Type} (slot : Slot σ (Memo τ)) : Action ε σ φ Unit :=
  .modify (slot.update Memo.clear)

end SourceDiagnostics
