import SourceDiagnostics.Proofs.Session.Remains

/-!
Layers of memory make no difference to requests. A request that is answered from remembered tables
comes to the same result as one that is answered straight from the files, whatever was done before,
since its file is said to have changed before its table is asked for. The two sessions are compared
side by side; all that has to agree between requests is the files.
-/

namespace SourceDiagnostics.Session

open Offsets

variable {ε φ τ : Type} [FileStore φ] (session : Session ε φ τ)

def FilesAgree (state other : State φ τ) : Prop :=
  state.files = other.files

/-- After the file was said to have changed, no layer remembers a table of it. -/
def Told (stacking : Stacking) (path : Path) (state other : State φ τ) : Prop :=
  state.files = other.files ∧ Misses stacking .top path state

theorem services_alike (stacking : Stacking) :
    (session.services (some stacking)).Alike (session.services none) FilesAgree (Told stacking) where
  alike_of_told _ _ _ told := told.left
  asked call other := by
    intro state state' same
    rw [Services.ask_apply, Services.ask_apply, session.services_of_other _ other,
      session.services_of_other _ other, same]
    exact ⟨rfl, rfl⟩
  asked_told path call other := by
    intro state state' told
    rw [Services.ask_apply, Services.ask_apply, session.services_of_other _ other,
      session.services_of_other _ other, told.left]
    exact ⟨rfl, rfl, misses_with_files stacking _ told.right⟩
  announced path := by
    intro state state' same
    have misses := session.misses_after_invalidate stacking path state
    rcases session.tables_invalidate (some stacking) .top path state with ⟨final, told, files⟩
    rcases session.tables_invalidate none .top path state' with ⟨final', told', files'⟩
    rw [Services.ask_apply, Services.ask_apply, session.services_invalidate,
      session.services_invalidate]
    rw [told] at misses ⊢
    rw [told']
    exact ⟨rfl, files.trans (same.trans files'.symm), misses⟩
  loaded path := by
    intro state state' told
    have files := session.tables_load_files (some stacking) .top path state
    rcases session.tables_load_of_misses told.right with ⟨final, log, loaded⟩
    have direct : (session.tables none .top).load path state' = _ :=
      load_files_alone session.compile path state'
    rw [loaded] at files
    rw [Services.ask_apply, Services.ask_apply, session.services_load_of_loaded loaded,
      session.services_load_of_loaded direct, told.left]
    exact ⟨rfl, files.trans told.left⟩

theorem visit_agree (stacking : Stacking) (visit : Visit φ) {state other : State φ τ}
    (same : FilesAgree state other) :
    FilesAgree (session.visit (some stacking) state visit) (session.visit none other visit) := by
  cases visit with
  | request config request =>
      have pairs := Validator.run_pairs (session.services_alike stacking) config request
      exact (pairs state other same).right
  | change change => exact congrArg change same
  | load layer path =>
      have remembered := session.tables_load_files (some stacking) layer path state
      have direct := session.tables_load_files none layer path other
      exact remembered.trans (same.trans direct.symm)
  | invalidate layer path =>
      rcases session.tables_invalidate (some stacking) layer path state with ⟨final, told, files⟩
      rcases session.tables_invalidate none layer path other with ⟨final', told', files'⟩
      rw [visit, visit, told, told']
      exact files.trans (same.trans files'.symm)
  | clear layer => cases stacking <;> cases layer <;> exact same

theorem after_agree (stacking : Stacking) (files : φ) (visits : List (Visit φ)) :
    FilesAgree (session.after (some stacking) files visits) (session.after none files visits) :=
  List.foldl_rel rfl fun visit _ _ _ same => session.visit_agree stacking visit same

/-- Whether tables are remembered makes no difference to requests. Whatever was done before, with
the same files in both sessions, a request comes to the same result; its positions are those that
its file has when they are asked for; and if it got as far as refreshing its unit, every table that
is remembered for the unit's file afterwards was read in the course of it. -/
theorem memory_makes_no_difference (stacking : Stacking) (files : φ) (visits : List (Visit φ))
    (config : Config) (request : Request) :
    let state := session.after (some stacking) files visits
    let direct := session.after none files visits
    let ran := (session.validator (some stacking) config).run request state
    ran.outcome = ((session.validator none config).run request direct).outcome ∧
      state.files = direct.files ∧
      (∀ diagnostics, ran.outcome = .returned (some diagnostics) →
        ∃ (replies : Replies) (found : State φ τ) (contents : Bytes) (front back : List Answered),
          Event.answers ran.log = front ++
            ⟨.load replies.unit.location, .returned replies.reports.resolver⟩ :: back ∧
          (session.services (some stacking)).Trail state front found ∧
          FileStore.read found.files replies.unit.location = .ok contents ∧
          replies.reports.resolver = session.resolve (session.compile contents) ∧
          diagnostics = replies.reports.diagnostics config replies.unit) ∧
      ∀ (unit : SourceUnit) (mode : RefreshMode) (layer : Layer) (path : Path) (table : τ),
        ⟨.refresh unit mode, .returned ()⟩ ∈ Event.answers ran.log → path ≈ unit.location →
          (memo stacking layer ran.state).find? path = some table →
            ∃ spelled, spelled ≈ unit.location ∧
              .service (.inr (.read spelled (.ok table))) ∈ ran.log := by
  intro state direct ran
  have agree : FilesAgree state direct := session.after_agree stacking files visits
  have pairs := Validator.run_pairs (session.services_alike stacking) config request
  refine ⟨(pairs state direct agree).left, agree, ?_, ?_⟩
  · exact session.run_places_by_contents stacking config request state
  · intro unit mode layer path table
    exact session.run_leaves_read_tables stacking config request state

end SourceDiagnostics.Session
