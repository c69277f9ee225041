import SourceDiagnostics.Proofs.Finding.EditorOrder

/-!
How findings are presented. The file that a diagnostic shows and the severity that makes a marker
an error are a matter of presentation: which findings are reported, where they are placed and in
which order is settled without them. `sited` is the list of findings that this comes to, and the
diagnostics are read off it one by one (`sort_reported_eq_map`).
-/

namespace SourceDiagnostics

namespace Finding

def locate (resolver : Resolver) : Finding → Except Omission Position
  | problem found => .ok (resolver found.start)
  | marker found =>
      if found.isTask then .error (.task found.message)
      else
        match found.position? resolver with
        | none => .error (.unplaced found.message)
        | some position => .ok position

def isWarning (errorSeverity : Int32) : Finding → Bool
  | problem found => found.isWarning
  | marker found => !found.isError errorSeverity

def present (file : Path) (errorSeverity : Int32) (finding : Finding) (position : Position) :
    Diagnostic :=
  .place finding.text file position (finding.isWarning errorSeverity)

/-- A finding with its number, and where it is placed. -/
structure Sited where
  number : Nat
  finding : Finding
  position : Position

def Sited.present (file : Path) (errorSeverity : Int32) (sited : Sited) : Diagnostic :=
  sited.finding.present file errorSeverity sited.position

def Sited.before (left right : Sited) : Bool :=
  (compare (Position.clamped left.position.line left.position.column)
    (Position.clamped right.position.line right.position.column)).isLE

def sited? (resolver : Resolver) (entry : Finding × Nat) : Option Sited :=
  (entry.1.locate resolver).toOption.map (⟨entry.2, entry.1, ·⟩)

def sited (resolver : Resolver) (findings : List Finding) : List Sited :=
  (findings.zipIdx.filterMap (sited? resolver)).mergeSort Sited.before

variable (file : Path) (resolver : Resolver) (errorSeverity : Int32)

theorem report_eq_map_locate (finding : Finding) :
    finding.report file resolver errorSeverity =
      (finding.locate resolver).map (finding.present file errorSeverity) := by
  cases finding with
  | problem found => rfl
  | marker found =>
      rw [report, locate]
      cases found.isTask with
      | true => rfl
      | false =>
          cases found.position? resolver with
          | none => rfl
          | some position => rfl

theorem reported_eq_map (findings : List Finding) :
    reported file resolver errorSeverity findings =
      (findings.zipIdx.filterMap (sited? resolver)).map (Sited.present file errorSeverity) := by
  conv => lhs; rw [← List.zipIdx_map_fst 0 findings]
  rw [reported, List.filterMap_map, List.map_filterMap]
  congr 1
  funext entry
  rw [sited?, Option.map_map]
  change (entry.1.report file resolver errorSeverity).toOption = _
  rw [report_eq_map_locate]
  cases entry.1.locate resolver <;> rfl

/-- The diagnostics of a file, in editor order, are those of the placed findings. -/
theorem sort_reported_eq_map (findings : List Finding) :
    Diagnostic.sort (reported file resolver errorSeverity findings) =
      (sited resolver findings).map (Sited.present file errorSeverity) := by
  rw [reported_eq_map, Diagnostic.sort, sited]
  symm
  apply List.map_mergeSort
  intros
  rfl

theorem sited?_eq_some_iff (finding : Finding) (number : Nat) (placed : Sited) :
    sited? resolver (finding, number) = some placed ↔
      number = placed.number ∧ finding = placed.finding ∧
        finding.locate resolver = .ok placed.position := by
  rw [sited?]
  cases finding.locate resolver with
  | error omission => simp [Except.toOption]
  | ok position =>
      rcases placed with ⟨number', finding', position'⟩
      simp [Except.toOption]

theorem mem_sited {findings : List Finding} {placed : Sited}
    (member : placed ∈ sited resolver findings) :
    findings[placed.number]? = some placed.finding ∧
      placed.finding.locate resolver = .ok placed.position := by
  rcases List.mem_filterMap.mp (List.mem_mergeSort.mp member) with ⟨⟨finding, number⟩, entry, found⟩
  rcases (sited?_eq_some_iff ..).mp found with ⟨rfl, rfl, located⟩
  exact ⟨List.mk_mem_zipIdx_iff_getElem?.mp entry, located⟩

theorem sited_numbers_nodup (findings : List Finding) :
    ((sited resolver findings).map Sited.number).Nodup := by
  have permuted := List.mergeSort_perm (findings.zipIdx.filterMap (sited? resolver)) Sited.before
  rw [sited, (permuted.map Sited.number).nodup_iff, List.map_filterMap]
  have numbers : (findings.zipIdx.map Prod.snd).Nodup := by
    rw [List.zipIdx_map_snd]
    exact List.nodup_range'
  refine (List.pairwise_map.mp numbers).filterMap _ ?_
  intro first last different number shown number' shown' same
  rcases first with ⟨finding, position⟩
  rcases last with ⟨finding', position'⟩
  rcases Option.map_eq_some_iff.mp shown with ⟨placed, found, rfl⟩
  rcases Option.map_eq_some_iff.mp shown' with ⟨placed', found', rfl⟩
  have numbered := ((sited?_eq_some_iff ..).mp found).left
  have numbered' := ((sited?_eq_some_iff ..).mp found').left
  exact different (numbered.trans (same.trans numbered'.symm))

theorem present_shows {finding : Finding} {position : Position}
    (located : finding.locate resolver = .ok position) :
    finding.Shows file resolver errorSeverity (finding.present file errorSeverity position) := by
  rw [← report_eq_ok_iff, report_eq_map_locate, located]
  rfl

theorem omitted_eq_omitted (file' : Path) (errorSeverity' : Int32) (findings : List Finding) :
    omitted file resolver errorSeverity findings =
      omitted file' resolver errorSeverity' findings := by
  rw [omitted, omitted]
  congr 1
  funext finding
  rw [report_eq_map_locate, report_eq_map_locate]
  cases finding.locate resolver <;> rfl

/-- Two severities make a difference to a finding if it is a marker that has just one of them. -/
theorem isWarning_ne_iff (errorSeverity' : Int32) (finding : Finding) :
    finding.isWarning errorSeverity ≠ finding.isWarning errorSeverity' ↔
      ∃ found, finding = marker found ∧
        ¬ (found.severity = some errorSeverity ↔ found.severity = some errorSeverity') := by
  cases finding with
  | problem found => simp [isWarning]
  | marker found =>
      have flags (left right : Bool) : (!left) ≠ (!right) ↔ ¬ (left = true ↔ right = true) := by
        cases left <;> cases right <;> decide
      simp [isWarning, Marker.isError, flags]

end Finding

end SourceDiagnostics
