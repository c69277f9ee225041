import SourceDiagnostics.BuildQueue
import SourceDiagnostics.Files.Basic
import SourceDiagnostics.LineTable
import SourceDiagnostics.Services.Basic

/-!
A workspace that is all data: its projects, the outcome of parsing and checking, its files, and
which services are to fail or panic. It offers every service, and logs the calls that it gets. It
is what a validator can be tried out on.
-/

namespace SourceDiagnostics

inductive Workspace.Service where
  | refresh
  | lock
  | syntaxTree
  | check
  | markers
  | schedule
  | build
  deriving DecidableEq, Repr

/-- A workspace as data. The paths in `missing` have no unit, those in `linked` have their files at
other locations. What is left out is absent: there are no projects, no findings and no trouble. -/
structure Workspace (φ : Type) where
  projects : List Project := []
  missing : List Path := []
  linked : List (Path × Path) := []
  tree : SyntaxTree := ⟨[], []⟩
  markers : List Marker := []
  files : φ
  failures : List (Workspace.Service × String) := []
  panics : List (Workspace.Service × String) := []
  locks : Int := 0
  memo : Memo LineTable := {}
  queue : BuildQueue := []

namespace Workspace

inductive Event where
  | called (call : Call)
  | built (project : Project)
  | noted (note : Note)

instance : NoteLog Event := ⟨Event.noted⟩

variable {φ ψ : Type}

def memoSlot : Slot (Workspace φ) (Memo LineTable) where
  get workspace := workspace.memo
  set memo workspace := { workspace with memo }
  get_set _ _ := rfl
  set_get _ := rfl
  set_set _ _ _ := rfl

def queueSlot : Slot (Workspace φ) BuildQueue where
  get workspace := workspace.queue
  set queue workspace := { workspace with queue }
  get_set _ _ := rfl
  set_get _ := rfl
  set_set _ _ _ := rfl

/-- Panics or fails if the service is to. A panic comes first. -/
def attend (service : Service) (failure : String → ψ) : Action Event (Workspace φ) ψ Unit := do
  if let some message := ← Action.gets (·.panics.lookup service) then Action.panic message
  if let some reason := ← Action.gets (·.failures.lookup service) then Action.fail (failure reason)

def changeLocks (change : Int) : Action Event (Workspace φ) ψ Unit :=
  Action.modify fun workspace => { workspace with locks := workspace.locks + change }

def unitOf (workspace : Workspace φ) (project : Project) (path : Path) :
    Except LookupError SourceUnit :=
  if workspace.missing.contains path then .error (.unitNotFound project.name path)
  else
    let unit := SourceUnit.inProject project path
    .ok ((workspace.linked.lookup path).elim unit unit.withLocation)

def tables [FileStore φ] : Provider Event (Workspace φ) LineTable where
  load path := do
    Action.emit (.called (.load path))
    Action.ofExcept
      (← Action.gets fun workspace => (FileStore.read workspace.files path).map LineTable.ofBytes)
  invalidate path := Action.emit (.called (.invalidate path))

def rememberedTables [FileStore φ] : Provider Event (Workspace φ) LineTable :=
  .remembering memoSlot tables

def build (project : Project) : Action Event (Workspace φ) BuildError Unit := do
  Action.emit (.built project)
  attend .build (.failed project.name)

/-- The services of a workspace. Finding a project is not logged; every other call is. -/
def services [FileStore φ] : Services Event (Workspace φ)
  | .resolve name => Action.gets fun workspace => workspace.projects.find? (·.name == name)
  | .projects => Action.gets Workspace.projects
  | .findUnit project path => do
      Action.emit (.called (.findUnit project path))
      Action.ofExcept (← Action.gets fun workspace => workspace.unitOf project path)
  | .refresh unit mode => do
      Action.emit (.called (.refresh unit mode))
      attend .refresh (.refresh unit.path)
  | .acquire scope => do
      Action.emit (.called (.acquire scope))
      attend .lock .lock
      changeLocks 1
  | .release => do
      Action.emit (.called .release)
      changeLocks (-1)
  | .buildTree unit style => do
      Action.emit (.called (.buildTree unit style))
      attend .syntaxTree (.syntaxTree unit.path)
      Action.gets Workspace.tree
  | .check resource mode => do
      Action.emit (.called (.check resource mode))
      attend .check (.run resource.path)
  | .findMarkers resource depth => do
      Action.emit (.called (.findMarkers resource depth))
      attend .markers (.markers resource.path)
      Action.gets Workspace.markers
  | .load path => (tables.map LineTable.resolve).load path
  | .invalidate path => tables.invalidate path
  | .schedule project => do
      Action.emit (.called (.schedule project))
      attend .schedule (.notScheduled project.name)

/-- How a workspace is used: whether tables are remembered between requests, and whether builds
are left for later. -/
structure Mode where
  remember : Bool := false
  background : Bool := false
  deriving DecidableEq, Repr

def servicesIn [FileStore φ] (mode : Mode) : Services Event (Workspace φ) :=
  let services : Services Event (Workspace φ) := Workspace.services
  let services :=
    if mode.remember then services.withOffsets (rememberedTables.map LineTable.resolve)
    else services
  if mode.background then services.withBuilds (BuildQueue.schedule queueSlot) else services

def finishBuilds : Action Event (Workspace φ) Empty Unit := do
  let queue ← Action.gets Workspace.queue
  BuildQueue.finishOldest queueSlot build queue.length

end Workspace

end SourceDiagnostics
