import SourceDiagnostics.Files.Basic
import SourceDiagnostics.Offsets.Provider
import SourceDiagnostics.Position

/-!
Histories of remembered tables: what can happen to one or two layers of memory over a file store,
and in which order. Files are read by loads that find no remembered table. While such a load is
under way, after its file has been read, anything else can happen, further loads included; so a
step of a history carries the steps that happen during it, to any depth. The log of a history says
when each step began and ended, and when a file was read in between.
-/

namespace SourceDiagnostics.Offsets

inductive Stacking where
  | single
  | double
  deriving DecidableEq, Repr

/-- Where a step acts. With a single layer both names stand for it. -/
inductive Layer where
  | top
  | bottom
  deriving DecidableEq, Repr

/-- A step of a history. The offsets of a step are those that whoever gets its table asks about. A
census changes nothing; it says which places a layer has a table for. -/
inductive Step where
  | edit (edit : Edit)
  | load (layer : Layer) (path : Path) (offsets : List Offset) (during : List Step)
  | hold (name : String) (path : Path)
  | held (name : String) (offsets : List Offset)
  | invalidate (layer : Layer) (path : Path)
  | clear (layer : Layer)
  | census (layer : Layer)

inductive Answer (τ : Type) where
  | nothing
  | table (table : τ)
  | failed (error : FileError)
  | places (places : List Path.Components)
  deriving DecidableEq, Repr

def Answer.ofExcept {τ : Type} : Except FileError τ → Answer τ
  | .ok found => .table found
  | .error error => .failed error

/-- Apart from the steps, a log shows when a file was read, when the files were told that one of them
has changed, and what a layer noted. -/
inductive Event (τ : Type) where
  | began (step : Step)
  | ended (step : Step) (answer : Answer τ)
  | read (path : Path) (result : Except FileError τ)
  | forgotten (path : Path)
  | noted (note : Note)

instance {τ : Type} : NoteLog (Event τ) := ⟨Event.noted⟩

structure State (φ τ : Type) where
  files : φ
  reads : Nat := 0
  lower : Memo τ := {}
  upper : Memo τ := {}
  held : List (String × τ) := []

namespace State

variable {φ τ : Type}

def filesSlot : Slot (State φ τ) φ where
  get state := state.files
  set files state := { state with files }
  get_set _ _ := rfl
  set_get _ := rfl
  set_set _ _ _ := rfl

def lowerSlot : Slot (State φ τ) (Memo τ) where
  get state := state.lower
  set memo state := { state with lower := memo }
  get_set _ _ := rfl
  set_get _ := rfl
  set_set _ _ _ := rfl

def upperSlot : Slot (State φ τ) (Memo τ) where
  get state := state.upper
  set memo state := { state with upper := memo }
  get_set _ _ := rfl
  set_get _ := rfl
  set_set _ _ _ := rfl

def keep (name : String) (table : τ) (state : State φ τ) : State φ τ :=
  { state with held := (name, table) :: state.held.filter (·.1 != name) }

def slot : Stacking → Layer → Slot (State φ τ) (Memo τ)
  | .double, .top => upperSlot
  | _, _ => lowerSlot

end State

variable {φ τ : Type} [FileStore φ]

/-- The files as a provider. The steps of `during` happen after a file has been read and before
its table is handed out. -/
def files (compile : Bytes → τ) (during : Action (Event τ) (State φ τ) Empty Unit) :
    Provider (Event τ) (State φ τ) τ where
  load path := do
    let result ← Action.gets fun state => (FileStore.read state.files path).map compile
    Action.emit (.read path result)
    Action.modify fun state => { state with reads := state.reads + 1 }
    during
    Action.ofExcept result
  invalidate path := Action.emit (.forgotten path)

def layered (stacking : Stacking) (layer : Layer) (base : Provider (Event τ) (State φ τ) τ) :
    Provider (Event τ) (State φ τ) τ :=
  match stacking, layer with
  | .double, .top => .remembering State.upperSlot (.remembering State.lowerSlot base)
  | _, _ => .remembering State.lowerSlot base

mutual

/-- What a step does. Only a load has steps during it, and they happen only if it reads a file. -/
def Step.perform (compile : Bytes → τ) (stacking : Stacking) :
    Step → Action (Event τ) (State φ τ) Empty (Answer τ)
  | .edit edit => do
      Action.modify fun state => { state with files := FileStore.edit edit state.files }
      return .nothing
  | .load layer path _ during => do
      let base := files compile (performAll compile stacking during)
      return .ofExcept (← ((layered stacking layer base).load path).attempt)
  | .hold name path => do
      let result ← ((layered stacking .top (files compile (pure ()))).load path).attempt
      if let .ok table := result then Action.modify (State.keep name table)
      return .ofExcept result
  | .held name _ => do
      let table? ← Action.gets fun state => state.held.lookup name
      return (table?.map Answer.table).getD .nothing
  | .invalidate layer path => do
      (layered stacking layer (files compile (pure ()))).invalidate path
      return .nothing
  | .clear layer => do
      Memo.clearAt (State.slot stacking layer)
      return .nothing
  | .census layer => do
      return .places (← Action.gets fun state => ((State.slot stacking layer).get state).places)

def performAll (compile : Bytes → τ) (stacking : Stacking) :
    List Step → Action (Event τ) (State φ τ) Empty Unit
  | [] => pure ()
  | step :: rest => do
      Action.emit (.began step)
      let answer ← step.perform compile stacking
      Action.emit (.ended step answer)
      performAll compile stacking rest

end

end SourceDiagnostics.Offsets
