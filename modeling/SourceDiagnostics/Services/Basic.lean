import SourceDiagnostics.Action
import SourceDiagnostics.FileError
import SourceDiagnostics.Index
import SourceDiagnostics.Marker
import SourceDiagnostics.Note
import SourceDiagnostics.Offsets.Provider
import SourceDiagnostics.Project

/-!
The services that a workspace offers, as typed calls. Services are given by what they do on each
call: any reply, any error of the kind that the call can fail with, or a panic, and any change of
the state behind them. Every call that is made through `Services.ask` leaves its question and its
answer in the log, so what was asked for and what came of it can be read off the log afterwards.
-/

namespace SourceDiagnostics

inductive Call where
  | resolve (name : String)
  | projects
  | findUnit (project : Project) (path : Path)
  | refresh (unit : SourceUnit) (mode : RefreshMode)
  | acquire (scope : List Project)
  | release
  | buildTree (unit : SourceUnit) (style : TreeStyle)
  | check (resource : Resource) (mode : LaunchMode)
  | findMarkers (resource : Resource) (depth : MarkerDepth)
  | load (path : Path)
  | invalidate (path : Path)
  | schedule (project : Project)
  deriving DecidableEq, Repr

namespace Call

@[reducible] def Reply : Call → Type
  | resolve _ => Option Project
  | projects => List Project
  | findUnit _ _ => SourceUnit
  | refresh _ _ | acquire _ | release => Unit
  | buildTree _ _ => SyntaxTree
  | check _ _ => Unit
  | findMarkers _ _ => List Marker
  | load _ => Resolver
  | invalidate _ => Unit
  | schedule _ => Unit

/-- What a call can fail with; `Empty` for one that cannot fail. -/
@[reducible] def Failure : Call → Type
  | resolve _ | projects | release | invalidate _ => Empty
  | findUnit _ _ => LookupError
  | refresh _ _ | acquire _ | buildTree _ _ => IndexError
  | check _ _ | findMarkers _ _ => CheckerError
  | load _ => FileError
  | schedule _ => BuildError

end Call

abbrev Services (ε σ : Type) :=
  (call : Call) → Action ε σ call.Failure call.Reply

/-- An event in the log of whoever uses services: a question, an answer, a note of one's own, or
an event that a service logged between question and answer. -/
inductive Event (ε : Type) where
  | asked (call : Call)
  | answered (call : Call) (outcome : Outcome call.Failure call.Reply)
  | noted (note : Note)
  | service (event : ε)

instance {ε : Type} : NoteLog (Event ε) := ⟨Event.noted⟩

namespace Services

variable {ε σ : Type}

def ask (services : Services ε σ) (call : Call) : Action (Event ε) σ call.Failure call.Reply :=
  fun state =>
    let ran := services call state
    ⟨ran.outcome, ran.state,
      .asked call :: ran.log.map .service ++ [.answered call ran.outcome]⟩

@[simp] theorem ask_apply (services : Services ε σ) (call : Call) (state : σ) :
    services.ask call state =
      ⟨(services call state).outcome, (services call state).state,
        .asked call :: (services call state).log.map .service ++
          [.answered call (services call state).outcome]⟩ := rfl

def withOffsets (services : Services ε σ) (provider : Provider ε σ Resolver) : Services ε σ
  | .load path => provider.load path
  | .invalidate path => provider.invalidate path
  | call => services call

def withBuilds (services : Services ε σ) (schedule : Project → Action ε σ BuildError Unit) :
    Services ε σ
  | .schedule project => schedule project
  | call => services call

end Services

end SourceDiagnostics
