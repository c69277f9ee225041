import SourceDiagnostics.Files.Memory
import SourceDiagnostics.Proofs.Diagnostic.Json
import SourceDiagnostics.Proofs.Finding.Presentation
import SourceDiagnostics.Proofs.Path.ForwardSlashes
import SourceDiagnostics.Proofs.Validator.Course
import SourceDiagnostics.Workspace

/-!
The path that a request's diagnostics show. It is one path for all of them, that of the unit as it
is to be reported (`Reports.file_of_mem_diagnostics`); so whether they can be written as JSON is a
matter of that path alone (`renderJson_diagnostics_eq_error_iff`).
-/

namespace SourceDiagnostics

theorem Reports.file_of_mem_diagnostics {config : Config} {unit : SourceUnit} {reports : Reports}
    {diagnostic : Diagnostic} (member : diagnostic ∈ reports.diagnostics config unit) :
    diagnostic.file = Validator.reportPath config unit.location := by
  rw [Reports.diagnostics, Finding.sort_reported_eq_map] at member
  rcases List.mem_map.mp member with ⟨sited, -, rfl⟩
  rfl

namespace Validator

open Diagnostic

theorem reportPath_on {config : Config} (on : config.forwardSlashes = true) (location : Path) :
    reportPath config location = location.forwardSlashes :=
  if_pos on

theorem reportPath_off {config : Config} (off : config.forwardSlashes = false) (location : Path) :
    reportPath config location = location :=
  if_neg (Bool.eq_false_iff.mp off)

theorem renderJson_diagnostics_eq_error_iff (config : Config) (unit : SourceUnit)
    (reports : Reports) (error : JsonError) :
    renderJson (reports.diagnostics config unit) = .error error ↔
      reports.diagnostics config unit ≠ [] ∧ ¬ (reportPath config unit.location).IsText ∧
        error = .pathNotText (reportPath config unit.location) := by
  rw [Path.not_isText_iff]
  exact renderJson_eq_error_iff_of_file (fun _ => Reports.file_of_mem_diagnostics) error

/-- With forward slashes, a reported path is a text without backslashes, whatever bytes the
location has; reporting it again, or a location that is such a text, changes nothing; and a
separator in a location is reported as a slash between what is reported of the bytes on either side
of it, however ill-formed they are, and nothing else is. So the diagnostics of a request can be
written as JSON then; and without forward slashes they cannot be just if there are any and the
location of the unit is no text. -/
theorem run_reports_paths {ε σ : Type} (validator : Validator ε σ) (request : Request)
    (state : σ) :
    let config := validator.config
    let ran := validator.run request state
    Path.ShowsForwardSlashes (reportPath { config with forwardSlashes := true }) ∧
      ∀ diagnostics, ran.outcome = .returned (some diagnostics) →
        ∃ replies : Replies, Event.answers ran.log = replies.stages config request ∧
          (config.forwardSlashes = true → ∃ text, renderJson diagnostics = .ok text) ∧
          (config.forwardSlashes = false → ∀ error, renderJson diagnostics = .error error ↔
            diagnostics ≠ [] ∧ ¬ replies.unit.location.IsText ∧
              error = .pathNotText replies.unit.location) := by
  intro config ran
  refine ⟨Path.showsForwardSlashes, fun diagnostics returned => ?_⟩
  have course := validator.run_settles request state
  rcases (course.returned_some_iff diagnostics).mp returned with ⟨-, replies, stages, rfl⟩
  refine ⟨replies, stages, fun on => ?_, fun off error => ?_⟩
  · cases rendered : renderJson (replies.reports.diagnostics validator.config replies.unit) with
    | ok text => exact ⟨text, rfl⟩
    | error error =>
        have ⟨_, not_text, _⟩ := (renderJson_diagnostics_eq_error_iff ..).mp rendered
        rw [reportPath_on on] at not_text
        exact absurd (Path.isText_forwardSlashes _) not_text
  · rw [renderJson_diagnostics_eq_error_iff, reportPath_off off]

/-- A location with a character that is cut off by a backslash. The problem in its file can be
written with forward slashes and cannot without them. -/
theorem run_reports_paths_of_truncated :
    let location : Path := ⟨[0x61, 0xE2, 0x82, 0x5C, 0x62]⟩
    let workspace : Workspace Memory := {
      projects := [⟨"demo", .ofString "/work/demo"⟩]
      linked := [(.ofString "a.c", location)]
      tree := ⟨[], [⟨"odd", 0, false⟩]⟩
      files := { fallback := some (.file []) } }
    let request : Request := { project := "demo", file := .ofString "a.c", validate := true }
    let ran (forwardSlashes : Bool) :=
      run ⟨Workspace.services, { forwardSlashes }⟩ request workspace
    let shown (file : Path) : List Diagnostic := [.place "odd" file ⟨1, 1⟩ false]
    let slashed : Path := ⟨[0x61, 0xEF, 0xBF, 0xBD, 0x2F, 0x62]⟩
    ((ran true).outcome = .returned (some (shown slashed)) ∧
      ∃ text, renderJson (shown slashed) = .ok text) ∧
    (ran false).outcome = .returned (some (shown location)) ∧
      renderJson (shown location) = .error (.pathNotText location) ∧ ¬ location.IsText := by
  intro location workspace request ran shown slashed
  have returned : (ran true).outcome = .returned (some (shown slashed)) := by decide +kernel
  have returned' : (ran false).outcome = .returned (some (shown location)) := by decide +kernel
  have unwritten : renderJson (shown location) = .error (.pathNotText location) := by decide +kernel
  rcases (run_reports_paths ⟨Workspace.services, {}⟩ request workspace).right _ returned with
    ⟨-, -, written, -⟩
  rcases (run_reports_paths ⟨Workspace.services, { forwardSlashes := false }⟩ request
    workspace).right _ returned' with ⟨replies, -, -, unwritten_iff⟩
  rcases (unwritten_iff rfl _).mp unwritten with ⟨-, not_text, same⟩
  rw [← JsonError.pathNotText.inj same] at not_text
  exact ⟨⟨returned, written rfl⟩, returned', unwritten, not_text⟩

end Validator

end SourceDiagnostics
