import SourceDiagnostics.Proofs.Session.Tables
import SourceDiagnostics.Proofs.Validator.Alike
import SourceDiagnostics.Proofs.Validator.Announcements
import SourceDiagnostics.Proofs.Validator.Course

/-!
What a request makes of the memory, and what it takes from it. A request says that its file has
changed before it asks for the table, and nobody else loads one in between. So the positions of a
request are those that the file has when they are asked for (`run_places_by_contents`), and whatever
is remembered for the file afterwards was read in the course of the request
(`run_leaves_read_tables`).
-/

namespace SourceDiagnostics.Session

open Offsets

variable {ε φ τ : Type} [FileStore φ] (session : Session ε φ τ)

/-! The services of a session, one by one. -/

theorem services_of_other (memory : Option Stacking) {call : Call}
    (other : call.concernsTables = false) (state : State φ τ) :
    session.services memory call state =
      ⟨(session.others call state.files).outcome,
        { state with files := (session.others call state.files).state },
        (session.others call state.files).log.map .inl⟩ := by
  cases call <;> first | rfl | cases other

theorem services_load_of_loaded {memory : Option Stacking} {path : Path}
    {state final : State φ τ} {result : Except FileError τ} {log : List (Offsets.Event τ)}
    (loaded : (session.tables memory .top).load path state = ⟨.ofExcept result, final, log⟩) :
    session.services memory (.load path) state =
      ⟨.ofExcept (result.map session.resolve), final, log.map .inr⟩ := by
  apply Provider.load_map_of_loaded session.resolve
  change ((session.tables memory .top).load path).writing Sum.inr state = _
  rw [Action.writing_apply, loaded]

theorem services_invalidate (memory : Option Stacking) (path : Path) (state : State φ τ) :
    session.services memory (.invalidate path) state =
      ⟨.returned (), ((session.tables memory .top).invalidate path state).state,
        [.inr (.forgotten path)]⟩ := by
  rcases session.tables_invalidate memory .top path state with ⟨final, told, _⟩
  change ((session.tables memory .top).invalidate path).writing Sum.inr state = _
  rw [Action.writing_apply, told]
  rfl

omit [FileStore φ] in
theorem misses_with_files (stacking : Stacking) {path : Path} {state : State φ τ} (files : φ)
    (misses : Misses stacking .top path state) :
    Misses stacking .top path { state with files } := by
  intro layer within
  have same : memo stacking layer { state with files } = memo stacking layer state := by
    cases stacking <;> cases layer <;> rfl
  rw [same]
  exact misses layer within

/-! What is remembered after a request. -/

def tableEvents (log : List (Event (ε ⊕ Offsets.Event τ))) : List (Offsets.Event τ) :=
  log.filterMap fun
    | .service (.inr event) => some event
    | _ => none

omit [FileStore φ] in
theorem mem_tableEvents {log : List (Event (ε ⊕ Offsets.Event τ))} {event : Offsets.Event τ} :
    event ∈ tableEvents log ↔ .service (.inr event) ∈ log := by
  rw [tableEvents, List.mem_filterMap]
  constructor
  · rintro ⟨other, member, same⟩
    split at same <;> cases same
    exact member
  · exact fun member => ⟨_, member, rfl⟩

omit [FileStore φ] in
theorem tableEvents_append (log later : List (Event (ε ⊕ Offsets.Event τ))) :
    tableEvents (log ++ later) = tableEvents log ++ tableEvents later :=
  List.filterMap_append

omit [FileStore φ] in
theorem tableEvents_exchange (call : Call) (log : List (Offsets.Event τ))
    (outcome : Outcome call.Failure call.Reply) :
    tableEvents (Event.exchange call (log.map .inr) outcome :
      List (Event (ε ⊕ Offsets.Event τ))) = log := by
  simp [tableEvents, Event.exchange, List.filterMap_map, Function.comp_def]

omit [FileStore φ] in
theorem tableEvents_exchange_of_other (call : Call) (log : List ε)
    (outcome : Outcome call.Failure call.Reply) :
    tableEvents (Event.exchange call (log.map .inl) outcome :
      List (Event (ε ⊕ Offsets.Event τ))) = [] := by
  simp [tableEvents, Event.exchange, List.filterMap_map, Function.comp_def]

structure Tracks (stacking : Stacking) (path : Path) (state : State φ τ)
    (log : List (Event (ε ⊕ Offsets.Event τ))) (final : State φ τ) : Prop where
  carries : Carries stacking path state (tableEvents log) final
  told : ∀ outcome, ⟨.invalidate path, outcome⟩ ∈ Event.answers log →
    .forgotten path ∈ tableEvents log

omit [FileStore φ] in
theorem tracks_sequential (stacking : Stacking) (path : Path) :
    Sequential (Tracks stacking path :
      State φ τ → List (Event (ε ⊕ Offsets.Event τ)) → State φ τ → Prop) where
  refl state := ⟨(carries_sequential stacking path).refl state, fun _ member => nomatch member⟩
  trans front back :=
    { carries := by
        rw [tableEvents_append]
        exact (carries_sequential stacking path).trans front.carries back.carries
      told := by
        intro outcome member
        rw [Event.answers_append] at member
        rw [tableEvents_append]
        rcases List.mem_append.mp member with early | late
        · exact List.mem_append_left _ (front.told outcome early)
        · exact List.mem_append_right _ (back.told outcome late) }

omit [FileStore φ] in
theorem note_tracks (stacking : Stacking) (path : Path) (note : Note) (state : State φ τ) :
    Tracks stacking path state [(.noted note : Event (ε ⊕ Offsets.Event τ))] state :=
  ⟨(carries_sequential stacking path).refl state, fun _ member => nomatch member⟩

theorem ask_tracks (stacking : Stacking) (path : Path) (call : Call) :
    ((session.services (some stacking)).ask call).Traces (Tracks stacking path) := by
  intro state
  rw [Services.ask_log, Services.ask_apply]
  by_cases concerned : call.concernsTables = true
  · cases call with
    | load asked =>
        have carries := session.load_carries stacking .top path asked state
        rcases session.tables_calm (some stacking) .top asked state with
          ⟨result, final, log, loaded⟩
        rw [loaded] at carries
        rw [session.services_load_of_loaded loaded]
        refine ⟨by rwa [tableEvents_exchange], fun outcome member => ?_⟩
        rw [Event.answers_exchange] at member
        cases List.mem_singleton.mp member
    | invalidate told =>
        have carries := session.invalidate_carries stacking path told state
        have logged : tableEvents (Event.exchange (.invalidate told) [.inr (.forgotten told)]
            (.returned ()) : List (Event (ε ⊕ Offsets.Event τ))) = [.forgotten told] :=
          tableEvents_exchange (.invalidate told) [.forgotten told] (.returned ())
        rw [session.services_invalidate]
        refine ⟨by rwa [logged], fun outcome member => ?_⟩
        rw [Event.answers_exchange] at member
        cases List.mem_singleton.mp member
        rw [logged]
        exact List.mem_cons_self
    | _ => cases concerned
  · rw [Bool.not_eq_true] at concerned
    rw [session.services_of_other _ concerned]
    constructor
    · rw [tableEvents_exchange_of_other]
      apply Carries.of_same _ fun _ member => absurd member List.not_mem_nil
      intro layer
      cases stacking <;> cases layer <;> rfl
    · intro outcome member
      rw [Event.answers_exchange] at member
      cases List.mem_singleton.mp member
      cases concerned

theorem run_tracks (stacking : Stacking) (path : Path) (config : Config) (request : Request) :
    ((session.validator (some stacking) config).run request).Traces (Tracks stacking path) := by
  have asked := session.ask_tracks stacking path
  apply Validator.run_traces (tracks_sequential stacking path) (note_tracks stacking path)
    fun call _ => asked call
  exact Services.problems_traces (tracks_sequential stacking path) (note_tracks stacking path)
    fun call _ => asked call

/-- Once a request has refreshed a unit, every table that is remembered for the unit's file, under
whatever spelling, was read in the course of the request. -/
theorem run_leaves_read_tables (stacking : Stacking) (config : Config) (request : Request)
    (state : State φ τ) {unit : SourceUnit} {mode : RefreshMode} {layer : Layer} {path : Path}
    {table : τ} :
    let ran := (session.validator (some stacking) config).run request state
    ⟨.refresh unit mode, .returned ()⟩ ∈ Event.answers ran.log → path ≈ unit.location →
      (memo stacking layer ran.state).find? path = some table →
        ∃ spelled, spelled ≈ unit.location ∧ .service (.inr (.read spelled (.ok table))) ∈ ran.log := by
  intro ran refreshed equal found
  have tracks := session.run_tracks stacking unit.location config request state
  have announced := (session.validator (some stacking) config).run_announced request state
  rcases List.append_of_mem refreshed with ⟨front, back, split⟩
  rcases announced front unit mode back split with ⟨outcome, rest, rfl⟩
  rw [Memo.find?_congr _ equal] at found
  cases tracks.carries table ⟨layer, found⟩ with
  | read spelled equal' member => exact ⟨spelled, equal', mem_tableEvents.mp member⟩
  | remained held untold =>
      have told : .forgotten unit.location ∈ tableEvents ran.log := by
        apply tracks.told outcome
        rw [split]
        simp
      exact absurd (Setoid.refl unit.location) (untold unit.location told)

/-! What positions are taken from. -/

theorem misses_of_trail {stacking : Stacking} {path : Path} {state final : State φ τ}
    {answers : List Answered} (trail : (session.services (some stacking)).Trail state answers final)
    (unloaded : ∀ answer ∈ answers, ∀ spelled, answer.call ≠ .load spelled)
    (misses : Misses stacking .top path state) : Misses stacking .top path final := by
  induction trail with
  | nil => exact misses
  | cons state call later induction =>
      rw [List.forall_mem_cons] at unloaded
      apply induction unloaded.right
      by_cases concerned : call.concernsTables = true
      · cases call with
        | load asked => exact absurd rfl (unloaded.left asked)
        | invalidate told =>
            rw [session.services_invalidate]
            intro layer within
            rw [memo_after_invalidate, Memo.find?_forget]
            split
            · rfl
            · exact misses layer within
        | _ => cases concerned
      · rw [Bool.not_eq_true] at concerned
        rw [session.services_of_other _ concerned]
        exact misses_with_files stacking _ misses

/-- When the file of a unit was said to have changed and its table is then asked for, the table is
made from what the file has at that moment. -/
theorem resolver_of_trail {stacking : Stacking} {path : Path} {state final : State φ τ}
    {before between after : List Answered} {told : Outcome Empty Unit} {resolver : Resolver}
    (unloaded : ∀ answer ∈ between, ∀ spelled, answer.call ≠ .load spelled)
    (trail : (session.services (some stacking)).Trail state
      ((before ++ ⟨.invalidate path, told⟩ :: between) ++ ⟨.load path, .returned resolver⟩ :: after)
      final) :
    ∃ found contents, (session.services (some stacking)).Trail state
        (before ++ ⟨.invalidate path, told⟩ :: between) found ∧
      FileStore.read found.files path = .ok contents ∧
      resolver = session.resolve (session.compile contents) := by
  rcases trail.split with ⟨found, early, late⟩
  rcases early.split with ⟨middle, _, announced⟩
  have misses : Misses stacking .top path found := by
    apply session.misses_of_trail announced.head.right unloaded
    rw [session.services_invalidate]
    exact session.misses_after_invalidate stacking path middle
  rcases session.tables_load_of_misses misses with ⟨afterwards, log, loaded⟩
  have returned := late.head.left
  rw [session.services_load_of_loaded loaded] at returned
  refine ⟨found, ?_⟩
  cases read : FileStore.read found.files path with
  | ok contents =>
      rw [read] at returned
      injection returned with same
      exact ⟨contents, early, rfl, same⟩
  | error error =>
      rw [read] at returned
      cases returned

theorem run_places_by_contents (stacking : Stacking) (config : Config) (request : Request)
    (state : State φ τ) (diagnostics : List Diagnostic) :
    let ran := (session.validator (some stacking) config).run request state
    ran.outcome = .returned (some diagnostics) →
      ∃ (replies : Replies) (found : State φ τ) (contents : Bytes) (front back : List Answered),
        Event.answers ran.log = front ++
          ⟨.load replies.unit.location, .returned replies.reports.resolver⟩ :: back ∧
        (session.services (some stacking)).Trail state front found ∧
        FileStore.read found.files replies.unit.location = .ok contents ∧
        replies.reports.resolver = session.resolve (session.compile contents) ∧
        diagnostics = replies.reports.diagnostics config replies.unit := by
  intro ran returned
  have course : Course config request (Event.answers ran.log) ran.outcome :=
    (session.validator (some stacking) config).run_settles request state
  have trail : (session.services (some stacking)).Trail state (Event.answers ran.log) ran.state :=
    ((session.validator (some stacking) config).run_recorded request state).trail
  rcases (course.returned_some_iff diagnostics).mp returned with ⟨wanted, replies, answered, given⟩
  rw [answered, replies.stages_eq config wanted] at trail
  have unloaded : ∀ answer ∈ ⟨.projects, .returned replies.reports.scope⟩ ::
      (Services.parsing replies.reports.scope replies.unit config.treeStyle replies.reports.tree ++
        Services.checking replies.unit.resource replies.reports.markers),
      ∀ spelled, answer.call ≠ .load spelled := by
    simp [Services.parsing, Services.checking]
  rcases session.resolver_of_trail unloaded trail with ⟨found, contents, early, read, resolved⟩
  exact ⟨replies, found, contents, _, _, answered.trans (replies.stages_eq config wanted), early,
    read, resolved, given⟩

end SourceDiagnostics.Session
