import SourceDiagnostics.Services.Basic

/-!
What the services report about one unit: the problems that parsing it brings up, and the markers
that the checker leaves. Parsing needs a lock on the index; the lock is released in any case, and
at once, so nothing else happens while it is held.
-/

namespace SourceDiagnostics.Services

variable {ε σ α : Type}

/-- Does something while the index of some projects is locked. Whatever comes of it, the lock is
released right after it; if there was no lock to be had, nothing is done and nothing is released. -/
def holdingLock (services : Services ε σ) (scope : List Project)
    (body : Action (Event ε) σ IndexError α) : Action (Event ε) σ IndexError α := do
  services.ask (.acquire scope)
  body.andFinally (services.ask .release)

def problems (services : Services ε σ) (scope : List Project) (unit : SourceUnit)
    (style : TreeStyle) : Action (Event ε) σ IndexError (List Problem) :=
  services.holdingLock scope do
    let tree ← services.ask (.buildTree unit style)
    Action.note (.problemsCollected tree.problems.length unit.path)
    return tree.problems

def markers (services : Services ε σ) (resource : Resource) :
    Action (Event ε) σ CheckerError (List Marker) := do
  services.ask (.check resource .onDemand)
  let markers ← services.ask (.findMarkers resource .zero)
  Action.note (.markersCollected markers.length resource.path)
  return markers

end SourceDiagnostics.Services
