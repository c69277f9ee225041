import Mathlib.Data.List.Forall2
import SourceDiagnostics.Note
import SourceDiagnostics.Proofs.Finding.EditorOrder

/-!
The account of findings. Each finding is either reported or omitted, and only markers are omitted
(`report_eq_error_iff`). So the diagnostics of a file are those of its reportable findings, one for
each in their order (`forall₂_reported`), the omissions are those of the other markers in their
order (`omitted_all_eq`), and what is counted among the diagnostics can be counted among the
findings. `Accounted` says how these lists are related; it does not depend on the order of the
diagnostics, so sorting them changes nothing about it (`Accounted.perm`).
-/

namespace SourceDiagnostics

def Marker.omission (found : Marker) : Omission :=
  if found.kind = .task then .task found.message else .unplaced found.message

def Marker.skipText (found : Marker) : String :=
  (if found.kind = .task then "skipping task marker: "
    else "skipping marker without position: ") ++ Text.Quoted.quoteOption found.message

theorem Note.message_omitted_omission (found : Marker) :
    (Note.omitted found.omission).message = found.skipText := by
  rw [Marker.omission, Marker.skipText]
  split <;> rfl

theorem Diagnostic.errorCount_add_warningCount (diagnostics : List Diagnostic) :
    errorCount diagnostics + warningCount diagnostics = diagnostics.length := by
  have unerring : (fun diagnostic : Diagnostic => decide ¬ diagnostic.isError = true) =
      isWarning := by
    funext diagnostic
    simp [isError]
  rw [List.length_eq_countP_add_countP isError, unerring]
  rfl

theorem countP_eq_of_forall₂ {α β : Type} {left : α → Bool} {right : β → Bool} {values : List α}
    {values' : List β}
    (alike : List.Forall₂ (fun value value' => left value = right value') values values') :
    values.countP left = values'.countP right := by
  induction alike with
  | nil => rfl
  | cons head _ induction => rw [List.countP_cons, List.countP_cons, head, induction]

namespace Finding

instance : DecidablePred Reportable
  | problem _ => isTrue trivial
  | marker found =>
      decidable_of_iff (found.kind ≠ .task ∧
        ((Marker.positive? found.charStart).isSome ∨ (Marker.positive? found.lineNumber).isSome)) <|
        by
          have present (number? : Option Int32) : (Marker.positive? number?).isSome ↔
              ∃ value, Marker.HasPositive number? value := by
            rw [← Option.ne_none_iff_isSome, ne_eq, ← Marker.not_hasPositive_iff]
            exact Classical.not_forall_not
          rw [Reportable, present, present, exists_or]

instance (errorSeverity : Int32) : DecidablePred (IsError errorSeverity)
  | problem found => inferInstanceAs (Decidable (found.isWarning = false))
  | marker found => inferInstanceAs (Decidable (found.severity = some errorSeverity))

variable (file : Path) (resolver : Resolver) (errorSeverity : Int32)

/-! Which findings are reported, and which are omitted. -/

theorem reportable_iff_exists_report (finding : Finding) :
    finding.Reportable ↔
      ∃ diagnostic, finding.report file resolver errorSeverity = .ok diagnostic := by
  simp only [reportable_iff_exists_shows file resolver errorSeverity, report_eq_ok_iff]

theorem report_eq_error_iff (finding : Finding) (omission : Omission) :
    finding.report file resolver errorSeverity = .error omission ↔
      ∃ found, finding = marker found ∧ ¬ finding.Reportable ∧ found.omission = omission := by
  rw [reportable_iff_exists_report file resolver errorSeverity]
  cases finding with
  | problem found => simp [report]
  | marker found =>
      by_cases task : found.kind = .task
      · simp [report, Marker.isTask, Marker.omission, task]
      · cases position : found.position? resolver <;>
          simp [report, Marker.isTask, Marker.omission, task, position]

theorem forall₂_reported (findings : List Finding) :
    List.Forall₂ (Shows file resolver errorSeverity) (findings.filter (Reportable ·))
      (reported file resolver errorSeverity findings) := by
  induction findings with
  | nil => exact .nil
  | cons finding rest induction =>
      rw [reported, List.filterMap_cons, ← reported]
      cases made : finding.report file resolver errorSeverity with
      | ok diagnostic =>
          have reportable : finding.Reportable :=
            (reportable_iff_exists_report file resolver errorSeverity finding).mpr ⟨_, made⟩
          rw [List.filter_cons_of_pos (by simpa using reportable)]
          exact .cons ((report_eq_ok_iff ..).mp made) induction
      | error omission =>
          obtain ⟨-, -, unreportable, -⟩ := (report_eq_error_iff ..).mp made
          rw [List.filter_cons_of_neg (by simpa using unreportable)]
          exact induction

theorem omitted_map_problem (problems : List Problem) :
    omitted file resolver errorSeverity (problems.map problem) = [] := by
  induction problems with
  | nil => rfl
  | cons found rest induction => exact induction

theorem omitted_map_marker (markers : List Marker) :
    omitted file resolver errorSeverity (markers.map marker) =
      (markers.filter fun found => ¬ (marker found).Reportable).map Marker.omission := by
  induction markers with
  | nil => rfl
  | cons found rest induction =>
      rw [List.map_cons, omitted, List.filterMap_cons, ← omitted, induction]
      cases made : (marker found).report file resolver errorSeverity with
      | ok diagnostic =>
          have reportable : (marker found).Reportable :=
            (reportable_iff_exists_report file resolver errorSeverity _).mpr ⟨_, made⟩
          rw [List.filter_cons_of_neg (by simpa using reportable)]
      | error omission =>
          obtain ⟨_, ⟨⟩, unreportable, rfl⟩ := (report_eq_error_iff ..).mp made
          rw [List.filter_cons_of_pos (by simpa using unreportable), List.map_cons]

theorem omitted_all_eq (problems : List Problem) (markers : List Marker) :
    omitted file resolver errorSeverity (all problems markers) =
      (markers.filter fun found => ¬ (marker found).Reportable).map Marker.omission := by
  rw [all, omitted, List.filterMap_append, ← omitted, ← omitted, omitted_map_problem,
    omitted_map_marker, List.nil_append]

/-- How the diagnostics and the omissions of a file are related to its problems and its markers. -/
structure Accounted (problems : List Problem) (markers : List Marker)
    (diagnostics : List Diagnostic) (omissions : List Omission) : Prop where
  each_once : problems.length + markers.length = diagnostics.length + omissions.length
  skipped : omissions.map (fun omission =>
      ((Note.omitted omission).level, (Note.omitted omission).message)) =
    (markers.filter fun found => ¬ (marker found).Reportable).map fun found =>
      (.trace, found.skipText)
  errors : Diagnostic.errorCount diagnostics =
    problems.countP (fun found => found.isWarning = false) +
      markers.countP fun found => (marker found).Reportable ∧ found.severity = some errorSeverity
  warnings : Diagnostic.errorCount diagnostics + Diagnostic.warningCount diagnostics =
    diagnostics.length
  hasErrors : Diagnostic.hasErrors diagnostics = true ↔ 0 < Diagnostic.errorCount diagnostics

namespace Accounted

variable {errorSeverity} {problems : List Problem} {markers : List Marker}
  {diagnostics : List Diagnostic} {omissions : List Omission}

theorem perm (accounted : Accounted errorSeverity problems markers diagnostics omissions)
    {reordered : List Diagnostic} (permuted : reordered.Perm diagnostics) :
    Accounted errorSeverity problems markers reordered omissions := by
  have errors : Diagnostic.errorCount reordered = Diagnostic.errorCount diagnostics :=
    permuted.countP_eq _
  have warnings : Diagnostic.warningCount reordered = Diagnostic.warningCount diagnostics :=
    permuted.countP_eq _
  have some_error : Diagnostic.hasErrors reordered = Diagnostic.hasErrors diagnostics :=
    permuted.any_eq
  exact
    { each_once := permuted.length_eq ▸ accounted.each_once
      skipped := accounted.skipped
      errors := errors ▸ accounted.errors
      warnings := by rw [errors, warnings, permuted.length_eq, accounted.warnings]
      hasErrors := by rw [errors, some_error, accounted.hasErrors] }

end Accounted

theorem errorCount_reported (findings : List Finding) :
    Diagnostic.errorCount (reported file resolver errorSeverity findings) =
      findings.countP fun finding => finding.Reportable ∧ finding.IsError errorSeverity := by
  have alike := (forall₂_reported file resolver errorSeverity findings).imp
    fun finding diagnostic shows =>
      show decide (finding.IsError errorSeverity) = diagnostic.isError by
        simp [Diagnostic.isError, ← shows.error]
  rw [Diagnostic.errorCount, ← countP_eq_of_forall₂ alike, List.countP_filter]
  simp [and_comm]

theorem length_reported (findings : List Finding) :
    (reported file resolver errorSeverity findings).length =
      findings.countP (Reportable ·) := by
  rw [← (forall₂_reported file resolver errorSeverity findings).length_eq,
    List.countP_eq_length_filter]

theorem accounted (problems : List Problem) (markers : List Marker) :
    Accounted errorSeverity problems markers
      (reported file resolver errorSeverity (all problems markers))
      (omitted file resolver errorSeverity (all problems markers)) where
  each_once := by
    have kept : (reported file resolver errorSeverity (all problems markers)).length =
        problems.length + markers.countP fun found => (marker found).Reportable := by
      rw [length_reported, all, List.countP_append, List.countP_map, List.countP_map]
      congr 1
      exact List.countP_eq_length.mpr fun _ _ => rfl
    have split : markers.length = markers.countP (fun found => (marker found).Reportable) +
        markers.countP fun found => ¬ (marker found).Reportable := by
      simpa using List.length_eq_countP_add_countP
        (fun found => decide (marker found).Reportable) (l := markers)
    rw [kept, omitted_all_eq, List.length_map, ← List.countP_eq_length_filter, split,
      Nat.add_assoc]
  skipped := by
    rw [omitted_all_eq, List.map_map]
    apply List.map_congr_left
    intro found _
    rw [Function.comp_apply, Note.message_omitted_omission]
    rfl
  errors := by
    rw [errorCount_reported, all, List.countP_append, List.countP_map, List.countP_map]
    congr 1
    apply List.countP_congr
    intro found _
    simp [Reportable, IsError]
  warnings := Diagnostic.errorCount_add_warningCount _
  hasErrors := by
    rw [Diagnostic.hasErrors, Diagnostic.errorCount, List.any_eq_true, List.countP_pos_iff]

end Finding

end SourceDiagnostics
