import SourceDiagnostics.Proofs.Services.Answers
import SourceDiagnostics.Services.Reports

/-!
The lock on the index, as a log shows it. `Lock.watch` follows a log event by event and stops at
an event that should not happen with the lock held, or without it. `LockEpisode` is what can be
answered between asking for the lock and being rid of it. Parsing a unit comes to one episode, and
calls that do not concern the lock come to none.
-/

namespace SourceDiagnostics

def Call.concernsLock : Call → Bool
  | acquire _ | buildTree _ _ | release => true
  | _ => false

def Call.needsLock : Call → Bool
  | buildTree _ _ | release => true
  | _ => false

/-- What is answered from asking for the lock to being without it: that there is none to be had,
or that it is there, what came of parsing, and that it is gone again. -/
inductive LockEpisode : List Answered → Prop
  | refused (scope : List Project) (outcome : Outcome IndexError Unit)
      (unlocked : outcome ≠ .returned ()) : LockEpisode [⟨.acquire scope, outcome⟩]
  | held (scope : List Project) (unit : SourceUnit) (style : TreeStyle)
      (tree : Outcome IndexError SyntaxTree) (released : Outcome Empty Unit) :
      LockEpisode [⟨.acquire scope, .returned ()⟩, ⟨.buildTree unit style, tree⟩,
        ⟨.release, released⟩]

namespace Lock

variable {ε σ : Type}

/-! Counting locks, and following whether one is held. -/

def change : Event ε → Int
  | .answered (.acquire _) (.returned _) => 1
  | .answered .release _ => -1
  | _ => 0

def outstanding : List (Event ε) → Int
  | [] => 0
  | event :: rest => change event + outstanding rest

def watch (held : Bool) : Event ε → Option Bool
  | .asked call => if call.needsLock = held then some held else none
  | .answered (.acquire _) (.returned _) => if held then none else some true
  | .answered .release _ => if held then some false else none
  | _ => some held

/-- A log in which every event may happen, from whether the lock is held before it to whether it
is held after it. -/
inductive Watched : Bool → List (Event ε) → Bool → Prop
  | nil (held) : Watched held [] held
  | cons {held between after event rest} : watch held event = some between →
      Watched between rest after → Watched held (event :: rest) after

def concerning (answers : List Answered) : List Answered :=
  answers.filter fun answer => answer.call.concernsLock

theorem concerning_of_episode {answers : List Answered} (episode : LockEpisode answers) :
    concerning answers = answers := by
  cases episode <;> rfl

/-- The answered calls that concern the lock are those of some episodes, one after the other. -/
def InEpisodes (log : List (Event ε)) : Prop :=
  ∃ episodes : List (List Answered), concerning (Event.answers log) = episodes.flatten ∧
    ∀ episode ∈ episodes, LockEpisode episode

theorem Watched.append {held between after : Bool} {front back : List (Event ε)}
    (first : Watched held front between) (last : Watched between back after) :
    Watched held (front ++ back) after := by
  induction first with
  | nil => exact last
  | cons step _ induction => exact .cons step (induction last)

theorem Watched.split {held after : Bool} {front back : List (Event ε)}
    (watched : Watched held (front ++ back) after) :
    ∃ between, Watched held front between ∧ Watched between back after := by
  induction front generalizing held with
  | nil => exact ⟨held, .nil held, watched⟩
  | cons event rest induction =>
      cases watched with
      | cons step later =>
          rcases induction later with ⟨between, first, last⟩
          exact ⟨between, .cons step first, last⟩

theorem needsLock_eq_of_watch {held after : Bool} {call : Call}
    (watched : watch held (.asked call : Event ε) = some after) : call.needsLock = held := by
  by_cases allowed : call.needsLock = held
  · exact allowed
  · rw [watch, if_neg allowed] at watched
    cases watched

theorem change_eq_of_watch {held after : Bool} {event : Event ε}
    (watched : watch held event = some after) :
    change event = (after.toNat : Int) - held.toNat := by
  unfold watch at watched
  split at watched
  · split at watched <;> cases watched
    exact (Int.sub_self _).symm
  · cases held <;> cases watched
    rfl
  · cases held <;> cases watched
    rfl
  · cases watched
    rw [Int.sub_self]
    unfold change
    split <;> simp_all

theorem Watched.outstanding_eq {held after : Bool} {log : List (Event ε)}
    (watched : Watched held log after) : outstanding log = (after.toNat : Int) - held.toNat := by
  induction watched with
  | nil held => exact (Int.sub_self _).symm
  | @cons held between after event rest step _ induction =>
      have first := change_eq_of_watch step
      rw [outstanding]
      omega

theorem Watched.service (held : Bool) (log : List ε) : Watched held (log.map .service) held := by
  induction log with
  | nil => exact .nil held
  | cons event rest induction => exact .cons rfl induction

theorem Watched.noted (held : Bool) (notes : List Note) :
    Watched held (notes.map .noted : List (Event ε)) held := by
  induction notes with
  | nil => exact .nil held
  | cons note rest induction => exact .cons rfl induction

theorem Watched.exchange {call : Call} {held after : Bool} {log : List ε}
    {outcome : Outcome call.Failure call.Reply} (allowed : call.needsLock = held)
    (answered : watch held (.answered call outcome : Event ε) = some after) :
    Watched held (Event.exchange call log outcome) after :=
  .cons (if_pos allowed) ((Watched.service held log).append (.cons answered (.nil after)))

/-- What parsing comes to once the lock is there: to what came of the tree, unless releasing the
lock is all that panicked. -/
def parsed (tree : Outcome IndexError SyntaxTree) (released : Outcome Empty Unit) :
    Outcome IndexError (List Problem) :=
  match tree, released with
  | .panicked message, _ => .panicked message
  | _, .panicked message => .panicked message
  | .failed error, _ => .failed error
  | .returned tree, _ => .returned tree.problems

inductive Parsing (scope : List Project) (unit : SourceUnit) (style : TreeStyle) :
    List (Event ε) → Outcome IndexError (List Problem) → Prop
  | refused (log : List ε) (error : IndexError) :
      Parsing scope unit style (Event.exchange (.acquire scope) log (.failed error)) (.failed error)
  | refusedByPanic (log : List ε) (message : String) :
      Parsing scope unit style (Event.exchange (.acquire scope) log (.panicked message))
        (.panicked message)
  | held (log built closed : List ε) (tree : Outcome IndexError SyntaxTree) (notes : List Note)
      (released : Outcome Empty Unit) :
      Parsing scope unit style
        (Event.exchange (.acquire scope) log (.returned ()) ++
          ((Event.exchange (.buildTree unit style) built tree ++ notes.map .noted) ++
            Event.exchange .release closed released))
        (parsed tree released)

theorem problems_parsing (services : Services ε σ) (scope : List Project) (unit : SourceUnit)
    (style : TreeStyle) :
    (services.problems scope unit style).Ends (Parsing scope unit style) := by
  intro state
  simp only [Services.problems, Services.holdingLock, Action.bind_apply, Services.ask_apply]
  rcases services (.acquire scope) state with ⟨⟨⟩ | error | message, between, log⟩
  · simp only [Action.andFinally, Action.bind_apply, Services.ask_apply]
    have held (built : List ε) (tree : Outcome IndexError SyntaxTree) (notes : List Note)
        (closed : Ran ε σ Empty Unit) : Parsing scope unit style _ _ :=
      .held log built closed.log tree notes closed.outcome
    rcases services (.buildTree unit style) between with ⟨tree | error | message, final, built⟩
    · have returned := held built (.returned tree)
        [.problemsCollected (SyntaxTree.problems tree).length unit.path]
      simp only [Action.note, Action.emit_apply, Action.pure_apply]
      rcases services .release final with ⟨⟨⟩ | error | message, after, closed⟩
      · exact returned ⟨.returned (), after, closed⟩
      · exact error.elim
      · exact returned ⟨.panicked message, after, closed⟩
    · have failed := held built (.failed error) []
      simp only [List.map_nil, List.append_nil] at failed
      dsimp only
      rcases services .release final with ⟨⟨⟩ | error | message, after, closed⟩
      · exact failed ⟨.returned (), after, closed⟩
      · exact error.elim
      · exact failed ⟨.panicked message, after, closed⟩
    · have panicked := held built (.panicked message) []
      simp only [List.map_nil, List.append_nil] at panicked
      exact panicked (services .release final)
  · exact .refused log error
  · exact .refusedByPanic log message

namespace Parsing

variable {scope : List Project} {unit : SourceUnit} {style : TreeStyle} {log : List (Event ε)}
  {outcome : Outcome IndexError (List Problem)}

theorem watched (parsing : Parsing scope unit style log outcome) : Watched false log false := by
  cases parsing with
  | refused log error => exact .exchange rfl rfl
  | refusedByPanic log message => exact .exchange rfl rfl
  | held log built closed tree notes released =>
      have acquired : Watched false (Event.exchange (.acquire scope) log (.returned ())) true :=
        .exchange rfl rfl
      have parsed : Watched true (Event.exchange (.buildTree unit style) built tree) true :=
        .exchange rfl rfl
      have closed : Watched true (Event.exchange .release closed released) false :=
        .exchange rfl rfl
      exact acquired.append ((parsed.append (.noted true notes)).append closed)

theorem answers_held (scope : List Project) (unit : SourceUnit) (style : TreeStyle)
    (log built closed : List ε) (tree : Outcome IndexError SyntaxTree) (notes : List Note)
    (released : Outcome Empty Unit) :
    Event.answers (Event.exchange (.acquire scope) log (.returned ()) ++
        ((Event.exchange (.buildTree unit style) built tree ++ notes.map .noted) ++
          Event.exchange .release closed released)) =
      [⟨.acquire scope, .returned ()⟩, ⟨.buildTree unit style, tree⟩, ⟨.release, released⟩] := by
  simp only [Event.answers_append, Event.answers_exchange, Event.answers_noted]
  rfl

theorem episode (parsing : Parsing scope unit style log outcome) :
    LockEpisode (Event.answers log) := by
  cases parsing with
  | refused log error =>
      rw [Event.answers_exchange]
      exact .refused scope (.failed error) nofun
  | refusedByPanic log message =>
      rw [Event.answers_exchange]
      exact .refused scope (.panicked message) nofun
  | held log built closed tree notes released =>
      rw [answers_held]
      exact .held scope unit style tree released

end Parsing

end Lock

end SourceDiagnostics
