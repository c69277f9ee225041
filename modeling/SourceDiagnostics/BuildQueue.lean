import SourceDiagnostics.Action
import SourceDiagnostics.Offsets.Provider
import SourceDiagnostics.Project
import SourceDiagnostics.Slot

/-!
Builds in the background. Scheduling a build only puts its project into a queue, and always
succeeds; the build itself is done later, when nobody waits for it any more, so its failure is
only noted. The queued builds can be done in any order.
-/

namespace SourceDiagnostics

abbrev BuildQueue := List Project

namespace BuildQueue

variable {ε σ φ : Type} [NoteLog ε]

def schedule (slot : Slot σ BuildQueue) (project : Project) : Action ε σ BuildError Unit := do
  Action.note (.buildQueued project.name)
  Action.modify (slot.update (· ++ [project]))

/-- Does one queued build and takes it off the queue; does nothing if there is none of that
number. -/
def finish (slot : Slot σ BuildQueue) (build : Project → Action ε σ BuildError Unit) (index : Nat) :
    Action ε σ φ Unit := do
  let queue ← Action.gets slot.get
  match queue[index]? with
  | none => return ()
  | some project =>
      Action.modify (slot.update (List.eraseIdx · index))
      match ← (build project).attempt with
      | .ok () => return ()
      | .error error => Action.note (.queuedBuildFailed error)

def finishOldest (slot : Slot σ BuildQueue) (build : Project → Action ε σ BuildError Unit) :
    (count : Nat) → Action ε σ φ Unit
  | 0 => pure ()
  | count + 1 => do
      finish slot build 0
      finishOldest slot build count

end BuildQueue

end SourceDiagnostics
