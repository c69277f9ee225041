import SourceDiagnostics.Finding
import SourceDiagnostics.Proofs.Diagnostic.Stability

/-!
Which diagnostics are handed out for a file, and in which order. `Reportable`, `At`, `text` and
`IsError` say what becomes of one finding in terms of the integers that its attributes are;
`report_eq_ok_iff` says that `report` does just that. The findings of a file carry the numbers
that they are gathered under through the filter and the sort, so `InEditorOrder` can say of the
result which finding each diagnostic comes from.
-/

namespace SourceDiagnostics

namespace Marker

def HasPositive (number? : Option Int32) (value : Nat) : Prop :=
  0 < value ∧ ∃ number, number? = some number ∧ number.toInt = value

theorem toNat_toUInt32_of_pos {number : Int32} (positive : 0 < number.toInt) :
    (number.toUInt32.toNat : Int) = number.toInt := by
  have signed : number.toInt = number.toBitVec.toInt := rfl
  have unsigned : number.toUInt32.toNat = number.toBitVec.toNat := rfl
  rw [signed] at positive ⊢
  rw [unsigned]
  rw [BitVec.toInt_eq_toNat_cond] at positive ⊢
  split at positive
  · rw [if_pos ‹_›]
  · omega

theorem hasPositive_iff_positive? (number? : Option Int32) (value : UInt32) :
    HasPositive number? value.toNat ↔ positive? number? = some value := by
  cases number? with
  | none => simp [positive?, HasPositive]
  | some number =>
      have pos_iff : 0 < number ↔ 0 < number.toInt := Int32.lt_iff_toInt_lt
      rw [positive?, Option.bind_some]
      by_cases positive : 0 < number.toInt
      · have converted := toNat_toUInt32_of_pos positive
        rw [if_pos (pos_iff.mpr positive)]
        constructor
        · intro given
          rcases given with ⟨_, _, present, same⟩
          cases present
          rw [same] at converted
          exact congrArg some (UInt32.toNat_inj.mp (Int.ofNat_inj.mp converted))
        · intro same
          cases same
          exact ⟨by omega, number, rfl, converted.symm⟩
      · rw [if_neg fun above => positive (pos_iff.mp above)]
        constructor
        · intro given
          rcases given with ⟨above, _, present, same⟩
          cases present
          omega
        · intro same
          cases same

theorem HasPositive.exists_eq_toNat {number? : Option Int32} {value : Nat}
    (positive : HasPositive number? value) : ∃ coordinate : UInt32, value = coordinate.toNat := by
  rcases positive with ⟨above, number, _, same⟩
  have converted : (number.toUInt32.toNat : Int) = number.toInt := toNat_toUInt32_of_pos (by omega)
  exact ⟨number.toUInt32, by omega⟩

theorem not_hasPositive_iff (number? : Option Int32) :
    (∀ value, ¬ HasPositive number? value) ↔ positive? number? = none := by
  constructor
  · intro absent
    cases found : positive? number? with
    | none => rfl
    | some value => exact absurd ((hasPositive_iff_positive? number? value).mpr found) (absent _)
  · intro absent value positive
    rcases positive.exists_eq_toNat with ⟨coordinate, rfl⟩
    rw [(hasPositive_iff_positive? number? coordinate).mp positive] at absent
    cases absent

end Marker

namespace Finding

/-! What a finding says about a file, apart from the code that reports it. -/

def Reportable : Finding → Prop
  | problem _ => True
  | marker found =>
      found.kind ≠ .task ∧
        ∃ value, Marker.HasPositive found.charStart value ∨
          Marker.HasPositive found.lineNumber value

/-- The line and the column that a reportable finding is at, as numbers that may be too small. -/
inductive At (resolver : Resolver) : Finding → Nat → Nat → Prop
  | problem (found : Problem) :
      At resolver (problem found) (resolver found.start).line.toNat
        (resolver found.start).column.toNat
  | offset {found : Marker} (work : found.kind ≠ .task) {offset : Offset}
      (positive : Marker.HasPositive found.charStart offset.toNat) :
      At resolver (marker found) (resolver offset).line.toNat (resolver offset).column.toNat
  | line {found : Marker} (work : found.kind ≠ .task) {line : Nat}
      (absent : ∀ offset, ¬ Marker.HasPositive found.charStart offset)
      (positive : Marker.HasPositive found.lineNumber line) :
      At resolver (marker found) line 1

def text : Finding → String
  | problem found => found.message
  | marker found => found.message.getD ""

def IsError (errorSeverity : Int32) : Finding → Prop
  | problem found => found.isWarning = false
  | marker found => found.severity = some errorSeverity

/-- Whether a diagnostic says about a file what a finding is about. -/
structure Shows (file : Path) (resolver : Resolver) (errorSeverity : Int32) (finding : Finding)
    (diagnostic : Diagnostic) : Prop where
  message : diagnostic.message = finding.text
  file : diagnostic.file = file
  error : diagnostic.isWarning = false ↔ finding.IsError errorSeverity
  placed : ∃ line column, finding.At resolver line column ∧
    diagnostic.line.toNat = max line 1 ∧ diagnostic.column.toNat = max column 1

end Finding

theorem Diagnostic.eq_place_iff (diagnostic : Diagnostic) (message : String) (file : Path)
    (position : Position) (isWarning : Bool) :
    .place message file position isWarning = diagnostic ↔
      diagnostic.message = message ∧ diagnostic.file = file ∧
        (diagnostic.isWarning = false ↔ isWarning = false) ∧
        diagnostic.line.toNat = max position.line.toNat 1 ∧
        diagnostic.column.toNat = max position.column.toNat 1 := by
  have flags (left right : Bool) : (left = false ↔ right = false) ↔ left = right := by
    cases left <;> cases right <;> decide
  rw [← Position.toNat_max_one, ← Position.toNat_max_one, UInt32.toNat_inj, UInt32.toNat_inj, flags]
  constructor
  · intro same
    subst same
    exact ⟨rfl, rfl, rfl, rfl, rfl⟩
  · rcases diagnostic with ⟨_, _, _, _, _, _, _⟩
    intro given
    rcases given with ⟨rfl, rfl, rfl, rfl, rfl⟩
    rfl

namespace Finding

variable (file : Path) (resolver : Resolver) (errorSeverity : Int32)

/-! A finding is reported by the diagnostic that shows it, and by no other. -/

theorem shows_problem_iff (found : Problem) (diagnostic : Diagnostic) :
    (problem found).Shows file resolver errorSeverity diagnostic ↔
      Diagnostic.place found.message file (resolver found.start) found.isWarning = diagnostic := by
  rw [Diagnostic.eq_place_iff]
  constructor
  · intro given
    rcases given with ⟨message, file, error, _, _, at_start, line, column⟩
    cases at_start
    exact ⟨message, file, error, line, column⟩
  · intro given
    rcases given with ⟨message, file, error, line, column⟩
    exact ⟨message, file, error, _, _, .problem found, line, column⟩

theorem isError_iff (found : Marker) :
    (!found.isError errorSeverity) = false ↔ (marker found).IsError errorSeverity := by
  simp [Marker.isError, IsError]

theorem exists_at_marker_iff (found : Marker) (holds : Nat → Nat → Prop) :
    (∃ line column, (marker found).At resolver line column ∧ holds (max line 1) (max column 1)) ↔
      found.kind ≠ .task ∧ ∃ position, found.position? resolver = some position ∧
        holds (max position.line.toNat 1) (max position.column.toNat 1) := by
  rw [Marker.position?]
  constructor
  · intro given
    rcases given with ⟨_, _, ⟨⟩ | ⟨work, positive⟩ | ⟨work, absent, positive⟩, held⟩
    · rw [(Marker.hasPositive_iff_positive? _ _).mp positive]
      exact ⟨work, _, rfl, held⟩
    · rcases positive.exists_eq_toNat with ⟨line, rfl⟩
      rw [(Marker.not_hasPositive_iff _).mp absent,
        (Marker.hasPositive_iff_positive? _ _).mp positive]
      refine ⟨work, _, rfl, ?_⟩
      rw [Position.lineStart, Position.clamped, Position.toNat_max_one, Position.toNat_max_one]
      simpa using held
  · intro given
    rcases given with ⟨work, position, same, held⟩
    cases offset : Marker.positive? found.charStart with
    | some value =>
        rw [offset] at same
        cases same
        exact ⟨_, _, .offset work ((Marker.hasPositive_iff_positive? _ _).mpr offset), held⟩
    | none =>
        rw [offset] at same
        rcases Option.map_eq_some_iff.mp same with ⟨line, present, rfl⟩
        refine ⟨line.toNat, 1, .line work ((Marker.not_hasPositive_iff _).mpr offset)
          ((Marker.hasPositive_iff_positive? _ _).mpr present), ?_⟩
        rw [Position.lineStart, Position.clamped, Position.toNat_max_one,
          Position.toNat_max_one] at held
        simpa using held

theorem shows_marker_iff (found : Marker) (diagnostic : Diagnostic) :
    (marker found).Shows file resolver errorSeverity diagnostic ↔
      found.kind ≠ .task ∧ ∃ position, found.position? resolver = some position ∧
        Diagnostic.place (found.message.getD "") file position (!found.isError errorSeverity) =
          diagnostic := by
  have placed := exists_at_marker_iff resolver found fun line column =>
    diagnostic.line.toNat = line ∧ diagnostic.column.toNat = column
  constructor
  · intro given
    rcases given with ⟨message, file, error, at_position⟩
    rcases placed.mp at_position with ⟨work, position, same, line, column⟩
    refine ⟨work, position, same,
      (Diagnostic.eq_place_iff ..).mpr ⟨message, file, ?_, line, column⟩⟩
    rw [isError_iff]
    exact error
  · intro given
    rcases given with ⟨work, position, same, reported⟩
    rcases (Diagnostic.eq_place_iff ..).mp reported with ⟨message, file, error, line, column⟩
    rw [isError_iff] at error
    exact ⟨message, file, error, placed.mpr ⟨work, position, same, line, column⟩⟩

/-- A finding is reported by the diagnostic that shows it, and by no other. -/
theorem report_eq_ok_iff (finding : Finding) (diagnostic : Diagnostic) :
    finding.report file resolver errorSeverity = .ok diagnostic ↔
      finding.Shows file resolver errorSeverity diagnostic := by
  cases finding with
  | problem found =>
      rw [shows_problem_iff, report, Except.ok.injEq]
  | marker found =>
      rw [shows_marker_iff, report]
      by_cases task : found.kind = .task
      · simp [Marker.isTask, task]
      · cases found.position? resolver <;> simp [Marker.isTask, task]

theorem reportable_iff_exists_shows (finding : Finding) :
    finding.Reportable ↔ ∃ diagnostic, finding.Shows file resolver errorSeverity diagnostic := by
  cases finding with
  | problem found =>
      refine ⟨fun _ => ⟨_, (shows_problem_iff ..).mpr rfl⟩, fun _ => trivial⟩
  | marker found =>
      constructor
      · intro given
        rcases given with ⟨work, value, positive⟩
        have located : ∃ line column, (marker found).At resolver line column ∧ True := by
          by_cases absent : ∀ offset, ¬ Marker.HasPositive found.charStart offset
          · exact ⟨value, 1, .line work absent (positive.resolve_left (absent value)), trivial⟩
          · rcases Classical.not_forall_not.mp absent with ⟨offset, present⟩
            rcases present.exists_eq_toNat with ⟨offset, rfl⟩
            exact ⟨_, _, .offset work present, trivial⟩
        rcases (exists_at_marker_iff resolver found fun _ _ => True).mp located with
          ⟨_, position, same, _⟩
        exact ⟨_, (shows_marker_iff ..).mpr ⟨work, position, same, rfl⟩⟩
      · intro given
        rcases given with
          ⟨diagnostic, _, _, _, _, _, ⟨⟩ | ⟨work, positive⟩ | ⟨work, absent, positive⟩, _⟩
        · exact ⟨work, _, .inl positive⟩
        · exact ⟨work, _, .inr positive⟩

theorem toOption_report_eq_some_iff (finding : Finding) (diagnostic : Diagnostic) :
    (finding.report file resolver errorSeverity).toOption = some diagnostic ↔
      finding.Shows file resolver errorSeverity diagnostic := by
  rw [← report_eq_ok_iff]
  cases finding.report file resolver errorSeverity <;> simp [Except.toOption]

/-! The findings of a file are numbered in the order they are gathered in. -/

def gathered (tree : SyntaxTree) (markers : List Marker) : List Finding :=
  tree.preprocessor.map problem ++ tree.semantic.map problem ++ markers.map marker

theorem all_eq_gathered (tree : SyntaxTree) (markers : List Marker) :
    all tree.problems markers = gathered tree markers := by
  rw [all, SyntaxTree.problems, List.map_append]
  rfl

def shown? (entry : Finding × Nat) : Option (Nat × Diagnostic) :=
  (entry.1.report file resolver errorSeverity).toOption.map fun diagnostic => (entry.2, diagnostic)

def numbered (findings : List Finding) : List (Nat × Diagnostic) :=
  findings.zipIdx.filterMap (shown? file resolver errorSeverity)

theorem shown?_eq_some_iff (finding : Finding) (position number : Nat) (diagnostic : Diagnostic) :
    shown? file resolver errorSeverity (finding, position) = some (number, diagnostic) ↔
      position = number ∧ finding.Shows file resolver errorSeverity diagnostic := by
  rw [← toOption_report_eq_some_iff, shown?, Option.map_eq_some_iff]
  constructor
  · intro given
    rcases given with ⟨_, shown, same⟩
    cases same
    exact ⟨rfl, shown⟩
  · intro given
    rcases given with ⟨rfl, shown⟩
    exact ⟨diagnostic, shown, rfl⟩

theorem map_numbered (findings : List Finding) :
    (numbered file resolver errorSeverity findings).map Prod.snd =
      reported file resolver errorSeverity findings := by
  have same : findings = findings.zipIdx.map Prod.fst := (List.zipIdx_map_fst 0 findings).symm
  conv => rhs; rw [same, reported, List.filterMap_map]
  rw [numbered, List.map_filterMap]
  congr 1
  funext entry
  rw [shown?, Option.map_map]
  exact congrFun Option.map_id _

theorem mem_numbered (findings : List Finding) (number : Nat) (diagnostic : Diagnostic) :
    (number, diagnostic) ∈ numbered file resolver errorSeverity findings ↔
      ∃ finding, findings[number]? = some finding ∧
        finding.Shows file resolver errorSeverity diagnostic := by
  rw [numbered, List.mem_filterMap]
  constructor
  · intro given
    rcases given with ⟨⟨finding, position⟩, member, shown⟩
    rcases (shown?_eq_some_iff ..).mp shown with ⟨rfl, shows⟩
    exact ⟨finding, List.mk_mem_zipIdx_iff_getElem?.mp member, shows⟩
  · intro given
    rcases given with ⟨finding, present, shows⟩
    exact ⟨(finding, number), List.mk_mem_zipIdx_iff_getElem?.mpr present,
      (shown?_eq_some_iff ..).mpr ⟨rfl, shows⟩⟩

theorem numbered_ascending (findings : List Finding) :
    (numbered file resolver errorSeverity findings).Pairwise fun left right =>
      left.1 < right.1 := by
  have ascending : findings.zipIdx.Pairwise fun left right => left.2 < right.2 := by
    have numbers : (findings.zipIdx.map Prod.snd).Pairwise (· < ·) := by
      rw [List.zipIdx_map_snd]
      exact List.pairwise_lt_range'
    exact List.pairwise_map.mp numbers
  apply ascending.filterMap
  intro first last earlier entry shown entry' shown'
  have numbered := ((shown?_eq_some_iff ..).mp shown).left
  have numbered' := ((shown?_eq_some_iff ..).mp shown').left
  rw [← numbered, ← numbered']
  exact earlier

/-! Numbered diagnostics are listed by line, then by column, then by number, which leaves no choice. -/

def Before (left right : Nat × Diagnostic) : Prop :=
  left.2.line < right.2.line ∨
    left.2.line = right.2.line ∧
      (left.2.column < right.2.column ∨
        left.2.column = right.2.column ∧ left.1 < right.1)

theorem Before.asymm {left right : Nat × Diagnostic} (first : Before left right)
    (second : Before right left) : False := by
  simp only [Before, UInt32.lt_iff_toNat_lt, ← UInt32.toNat_inj] at first second
  omega

def byPosition (left right : Nat × Diagnostic) : Bool :=
  (Diagnostic.comparePosition left.2 right.2).isLE

theorem mergeSort_byPosition_before {entries : List (Nat × Diagnostic)}
    (ascending : entries.Pairwise fun left right => left.1 < right.1) :
    (entries.mergeSort byPosition).Pairwise Before := by
  have trans (first second third : Nat × Diagnostic) : byPosition first second →
      byPosition second third → byPosition first third :=
    Diagnostic.comparePosition_isLE_trans first.2 second.2 third.2
  have total (left right : Nat × Diagnostic) : byPosition left right || byPosition right left :=
    Diagnostic.comparePosition_isLE_total left.2 right.2
  apply (mergeSort_stable trans total ascending).imp
  intro left right ordering
  rcases left with ⟨number, left⟩
  rcases right with ⟨number', right⟩
  rcases ordering with ⟨forward, tied⟩
  simp only [byPosition, Diagnostic.comparePosition_isLE_iff] at forward tied
  simp only [Before, UInt32.lt_iff_toNat_lt, UInt32.le_iff_toNat_le, ← UInt32.toNat_inj] at *
  omega

theorem eq_of_before {left right : List (Nat × Diagnostic)} (first : left.Pairwise Before)
    (second : right.Pairwise Before) (same : ∀ entry, entry ∈ left ↔ entry ∈ right) :
    left = right := by
  have distinct {entries : List (Nat × Diagnostic)} (ordered : entries.Pairwise Before) :
      entries.Nodup := by
    apply ordered.imp
    intro a b before same
    subst same
    exact before.asymm before
  apply List.Perm.eq_of_pairwise (fun a b _ _ before after => (before.asymm after).elim)
    first second
  exact (List.perm_ext_iff_of_nodup (distinct first) (distinct second)).mpr same

/-- Numbered diagnostics that report some findings in editor order. -/
structure InEditorOrder (findings : List Finding) (placed : List (Nat × Diagnostic)) : Prop where
  once : (placed.map Prod.fst).Nodup
  reported : ∀ number finding, findings[number]? = some finding →
    (finding.Reportable ↔ number ∈ placed.map Prod.fst)
  shown : ∀ number diagnostic, (number, diagnostic) ∈ placed →
    ∃ finding, findings[number]? = some finding ∧
      finding.Shows file resolver errorSeverity diagnostic
  ordered : placed.Pairwise Before

theorem Shows.unique {finding : Finding} {left right : Diagnostic}
    (first : finding.Shows file resolver errorSeverity left)
    (second : finding.Shows file resolver errorSeverity right) : left = right := by
  rw [← report_eq_ok_iff] at first second
  rw [first] at second
  cases second
  rfl

theorem InEditorOrder.mem_iff {findings : List Finding} {placed : List (Nat × Diagnostic)}
    (order : InEditorOrder file resolver errorSeverity findings placed) (number : Nat)
    (diagnostic : Diagnostic) :
    (number, diagnostic) ∈ placed ↔ ∃ finding, findings[number]? = some finding ∧
      finding.Shows file resolver errorSeverity diagnostic := by
  constructor
  · exact order.shown number diagnostic
  · intro given
    rcases given with ⟨finding, present, shows⟩
    have reportable : finding.Reportable :=
      (reportable_iff_exists_shows file resolver errorSeverity finding).mpr ⟨diagnostic, shows⟩
    rcases List.mem_map.mp ((order.reported number finding present).mp reportable) with
      ⟨⟨_, other⟩, member, rfl⟩
    rcases order.shown _ other member with ⟨finding', present', shows'⟩
    rw [present] at present'
    cases present'
    rw [shows.unique _ _ _ shows']
    exact member

theorem numbered_inEditorOrder (findings : List Finding) :
    InEditorOrder file resolver errorSeverity findings
      ((numbered file resolver errorSeverity findings).mergeSort byPosition) := by
  have ascending := numbered_ascending file resolver errorSeverity findings
  have permuted := List.mergeSort_perm (numbered file resolver errorSeverity findings) byPosition
  refine ⟨?_, ?_, ?_, mergeSort_byPosition_before ascending⟩
  · rw [(permuted.map Prod.fst).nodup_iff]
    exact List.pairwise_map.mpr (ascending.imp Nat.ne_of_lt)
  · intro number finding present
    rw [(permuted.map Prod.fst).mem_iff, List.mem_map,
      reportable_iff_exists_shows file resolver errorSeverity]
    constructor
    · intro given
      rcases given with ⟨diagnostic, shows⟩
      exact ⟨(number, diagnostic), (mem_numbered ..).mpr ⟨finding, present, shows⟩, rfl⟩
    · intro given
      rcases given with ⟨⟨_, diagnostic⟩, member, rfl⟩
      rcases (mem_numbered ..).mp member with ⟨finding', present', shows⟩
      rw [present] at present'
      cases present'
      exact ⟨diagnostic, shows⟩
  · intro number diagnostic member
    exact (mem_numbered ..).mp (permuted.mem_iff.mp member)

/-- The diagnostics of a file are those of its reportable findings, each of them once, by line, by
column, and where these tie in the order of the findings; and no other list of diagnostics is
that. -/
theorem eq_sort_reported_iff (tree : SyntaxTree) (markers : List Marker)
    (diagnostics : List Diagnostic) :
    diagnostics = Diagnostic.sort
        (reported file resolver errorSeverity (all tree.problems markers)) ↔
      ∃ placed : List (Nat × Diagnostic), diagnostics = placed.map Prod.snd ∧
        InEditorOrder file resolver errorSeverity (gathered tree markers) placed := by
  have order := numbered_inEditorOrder file resolver errorSeverity (gathered tree markers)
  have projected : Diagnostic.sort (reported file resolver errorSeverity (gathered tree markers)) =
      ((numbered file resolver errorSeverity (gathered tree markers)).mergeSort byPosition).map
        Prod.snd := by
    rw [Diagnostic.sort, ← map_numbered]
    symm
    apply List.map_mergeSort
    intros
    rfl
  rw [all_eq_gathered, projected]
  constructor
  · intro same
    subst same
    exact ⟨_, rfl, order⟩
  · intro given
    rcases given with ⟨placed, rfl, order'⟩
    rw [eq_of_before order'.ordered order.ordered]
    intro given
    rcases given with ⟨number, diagnostic⟩
    rw [order.mem_iff, order'.mem_iff]

end Finding

end SourceDiagnostics
