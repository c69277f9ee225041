import Mathlib.Data.List.Forall2
import Mathlib.Tactic.Choose
import SourceDiagnostics.Proofs.Finding.EditorOrder
import SourceDiagnostics.Proofs.LineTable.Ascending

/-!
Editor order as byte order. Findings that give byte offsets stand in the order of these offsets in
the list that an editor shows, since a line table sends later offsets to later positions. The list
in byte order is an editor order of the findings (`InByteOrder.inEditorOrder`), and there is only
one of those.
-/

namespace SourceDiagnostics.Finding

def byteOffset : Finding → Int
  | problem found => found.start.toNat
  | marker found => (found.charStart.getD 0).toInt

/-- Whether a finding is to be reported at the byte offset it gives. The last offset of all is left
out: at the start of a file its column would be one too many. -/
def AtByte : Finding → Prop
  | problem found => found.start.toNat < 2 ^ 32 - 1
  | marker found => found.kind ≠ .task ∧ ∃ start, found.charStart = some start ∧ 0 < start

/-- Findings with the numbers they were gathered under, ordered by byte offset, and where these tie
by number. -/
structure InByteOrder (findings : List Finding) (ordered : List (Finding × Nat)) : Prop where
  gathered : ordered.Perm findings.zipIdx
  ascending : ordered.Pairwise fun left right =>
    left.1.byteOffset < right.1.byteOffset ∨
      left.1.byteOffset = right.1.byteOffset ∧ left.2 < right.2

variable {file : Path} {resolver : Resolver} {errorSeverity : Int32}

theorem hasPositive_of_pos {start : Int32} (above : 0 < start) :
    Marker.HasPositive (some start) start.toUInt32.toNat := by
  have positive : 0 < start.toInt := Int32.lt_iff_toInt_lt.mp above
  have converted := Marker.toNat_toUInt32_of_pos positive
  exact ⟨by omega, start, rfl, converted.symm⟩

theorem AtByte.reportable {finding : Finding} (placed : finding.AtByte) : finding.Reportable := by
  cases finding with
  | problem found => trivial
  | marker found =>
      rcases placed with ⟨work, start, present, above⟩
      exact ⟨work, _, .inl (present ▸ hasPositive_of_pos above)⟩

theorem AtByte.exists_offset {finding : Finding} (placed : finding.AtByte) (resolver : Resolver) :
    ∃ offset : Offset, finding.byteOffset = offset.toNat ∧ offset.toNat < 2 ^ 32 - 1 ∧
      ∀ line column, finding.At resolver line column →
        line = (resolver offset).line.toNat ∧ column = (resolver offset).column.toNat := by
  cases finding with
  | problem found =>
      refine ⟨found.start, rfl, placed, ?_⟩
      intro line column at_start
      cases at_start
      exact ⟨rfl, rfl⟩
  | marker found =>
      rcases placed with ⟨_, start, present, above⟩
      have given : Marker.HasPositive found.charStart start.toUInt32.toNat :=
        present ▸ hasPositive_of_pos above
      have converted := Marker.toNat_toUInt32_of_pos (Int32.lt_iff_toInt_lt.mp above)
      have below : start.toInt < 2 ^ 31 := Int32.toInt_lt start
      refine ⟨start.toUInt32, ?_, by omega, ?_⟩
      · rw [byteOffset, present, Option.getD_some, converted]
      · intro line column at_start
        cases at_start with
        | offset _ given' =>
            have same := (Marker.hasPositive_iff_positive? _ _).mp given
            rw [(Marker.hasPositive_iff_positive? _ _).mp given'] at same
            cases same
            exact ⟨rfl, rfl⟩
        | line _ absent _ => exact absurd given (absent _)

theorem Shows.exists_resolved {table : LineTable} (ascending : table.Ascending) {finding : Finding}
    {diagnostic : Diagnostic} (placed : finding.AtByte)
    (shows : finding.Shows file table.resolve errorSeverity diagnostic) :
    ∃ offset : Offset, finding.byteOffset = offset.toNat ∧ offset.toNat < 2 ^ 32 - 1 ∧
      diagnostic.position = table.resolve offset := by
  rcases placed.exists_offset table.resolve with ⟨offset, same, bound, located⟩
  rcases shows.placed with ⟨line, column, at_offset, shown_line, shown_column⟩
  rcases located line column at_offset with ⟨rfl, rfl⟩
  have line_pos := (ascending.fits bound).toNat_line
  have column_pos := (ascending.fits bound).toNat_column
  have same_line : diagnostic.line = (table.resolve offset).line :=
    UInt32.toNat_inj.mp (by omega)
  have same_column : diagnostic.column = (table.resolve offset).column :=
    UInt32.toNat_inj.mp (by omega)
  refine ⟨offset, same, bound, ?_⟩
  rw [Diagnostic.position, same_line, same_column]

/-! Two findings that are shown through the same table. -/

section Order

variable {table : LineTable} (ascending : table.Ascending) {left right : Finding}
  {first second : Diagnostic} (placed : left.AtByte) (placed' : right.AtByte)
  (shows : left.Shows file table.resolve errorSeverity first)
  (shows' : right.Shows file table.resolve errorSeverity second)

include ascending placed placed' shows shows'

theorem position_lt_of_byteOffset_lt (lt : left.byteOffset < right.byteOffset) :
    first.line < second.line ∨ first.line = second.line ∧ first.column < second.column := by
  rcases shows.exists_resolved ascending placed with ⟨offset, same, _, at_offset⟩
  rcases shows'.exists_resolved ascending placed' with ⟨offset', same', bound', at_offset'⟩
  have before : offset < offset' := UInt32.lt_iff_toNat_lt.mpr (by omega)
  have later := ascending.resolve_lt before (ascending.fits bound')
  rwa [← at_offset, ← at_offset'] at later

theorem position_eq_of_byteOffset_eq (equal : left.byteOffset = right.byteOffset) :
    first.position = second.position := by
  rcases shows.exists_resolved ascending placed with ⟨offset, same, _, at_offset⟩
  rcases shows'.exists_resolved ascending placed' with ⟨offset', same', _, at_offset'⟩
  have equal_offsets : offset = offset' := UInt32.toNat_inj.mp (by omega)
  rw [at_offset, at_offset', equal_offsets]

theorem position_eq_iff_byteOffset_eq :
    first.position = second.position ↔ left.byteOffset = right.byteOffset := by
  constructor
  · intro same
    rw [Diagnostic.position, Diagnostic.position, Position.mk.injEq] at same
    rcases same with ⟨line, column⟩
    rcases Int.lt_trichotomy left.byteOffset right.byteOffset with lt | equal | gt
    · have before := position_lt_of_byteOffset_lt ascending placed placed' shows shows' lt
      rw [line, column] at before
      simp [UInt32.lt_irrefl] at before
    · exact equal
    · have before := position_lt_of_byteOffset_lt ascending placed' placed shows' shows gt
      rw [line, column] at before
      simp [UInt32.lt_irrefl] at before
  · exact position_eq_of_byteOffset_eq ascending placed placed' shows shows'

end Order

/-! Findings in byte order are in editor order. -/

theorem exists_inByteOrder (findings : List Finding) :
    ∃ ordered, InByteOrder findings ordered := by
  let byOffset (left right : Finding × Nat) : Bool := left.1.byteOffset ≤ right.1.byteOffset
  have ascending : findings.zipIdx.Pairwise fun left right => left.2 < right.2 := by
    apply List.pairwise_map.mp
    rw [List.zipIdx_map_snd]
    exact List.pairwise_lt_range'
  have trans (first second third : Finding × Nat) :
      byOffset first second → byOffset second third → byOffset first third := by
    simp only [byOffset, decide_eq_true_eq]
    exact Int.le_trans
  have total (left right : Finding × Nat) : byOffset left right || byOffset right left := by
    simp only [byOffset, Bool.or_eq_true, decide_eq_true_eq]
    exact Int.le_total _ _
  have sorted := mergeSort_stable trans total ascending
  refine ⟨findings.zipIdx.mergeSort byOffset, List.mergeSort_perm _ _, sorted.imp ?_⟩
  intro left right ordering
  simp only [byOffset, decide_eq_true_eq] at ordering
  rcases Int.lt_or_eq_of_le ordering.left with lt | equal
  · exact .inl lt
  · exact .inr ⟨equal, ordering.right (Int.le_of_eq equal.symm)⟩

theorem InEditorOrder.map_eq_sort_reported {findings : List Finding}
    {placed : List (Nat × Diagnostic)}
    (order : InEditorOrder file resolver errorSeverity findings placed) :
    placed.map Prod.snd =
      Diagnostic.sort (Finding.reported file resolver errorSeverity findings) := by
  have order' := numbered_inEditorOrder file resolver errorSeverity findings
  have same := eq_of_before order.ordered order'.ordered fun entry => by
    rw [order.mem_iff, order'.mem_iff]
  rw [same, Diagnostic.sort, ← map_numbered]
  exact List.map_mergeSort fun _ _ _ _ => rfl

theorem InByteOrder.inEditorOrder {table : LineTable} (ascending : table.Ascending)
    {findings : List Finding} {ordered : List (Finding × Nat)}
    (order : InByteOrder findings ordered) (placed : ∀ finding ∈ findings, finding.AtByte)
    {diagnosticOf : Finding → Diagnostic}
    (shows : ∀ finding ∈ findings,
      finding.Shows file table.resolve errorSeverity (diagnosticOf finding)) :
    InEditorOrder file table.resolve errorSeverity findings
      (ordered.map fun entry => (entry.2, diagnosticOf entry.1)) := by
  have numbers : (ordered.map fun entry => (entry.2, diagnosticOf entry.1)).map Prod.fst =
      ordered.map Prod.snd := by
    rw [List.map_map]
    rfl
  have found (entry : Finding × Nat) (member : entry ∈ ordered) :
      findings[entry.2]? = some entry.1 :=
    List.mk_mem_zipIdx_iff_getElem?.mp (order.gathered.mem_iff.mp member)
  refine ⟨?_, ?_, ?_, ?_⟩
  · rw [numbers, (order.gathered.map Prod.snd).nodup_iff, List.zipIdx_map_snd]
    exact List.nodup_range'
  · intro number finding present
    have member : (finding, number) ∈ ordered :=
      order.gathered.mem_iff.mpr (List.mk_mem_zipIdx_iff_getElem?.mpr present)
    have reportable := (placed finding (List.mem_of_getElem? present)).reportable
    rw [numbers]
    exact iff_of_true reportable (List.mem_map_of_mem member)
  · intro number diagnostic member
    rcases List.mem_map.mp member with ⟨entry, inside, same⟩
    cases same
    exact ⟨entry.1, found entry inside, shows _ (List.mem_of_getElem? (found entry inside))⟩
  · rw [List.pairwise_map]
    apply order.ascending.imp_of_mem
    intro left right inside inside' before
    have member := List.mem_of_getElem? (found left inside)
    have member' := List.mem_of_getElem? (found right inside')
    rcases before with lt | ⟨equal, earlier⟩
    · rcases position_lt_of_byteOffset_lt ascending (placed _ member) (placed _ member')
        (shows _ member) (shows _ member') lt with line | ⟨line, column⟩
      · exact .inl line
      · exact .inr ⟨line, .inl column⟩
    · have same := position_eq_of_byteOffset_eq ascending (placed _ member) (placed _ member')
        (shows _ member) (shows _ member') equal
      rw [Diagnostic.position, Diagnostic.position, Position.mk.injEq] at same
      exact .inr ⟨same.left, .inr ⟨same.right, earlier⟩⟩

/-- Problems and markers that give byte offsets are listed in the order of these offsets, and where
they tie in the order they came in, problems first. Two of them share a position just if they share
an offset. -/
theorem sort_reported_follows_bytes (bytes : Bytes) (small : bytes.length < 2 ^ 32)
    (problems : List Problem) (markers : List Marker) (file : Path) (errorSeverity : Int32)
    (bounded : ∀ problem ∈ problems, problem.start.toNat < 2 ^ 32 - 1)
    (placed : ∀ marker ∈ markers,
      marker.kind ≠ .task ∧ ∃ start, marker.charStart = some start ∧ 0 < start) :
    let resolver := (LineTable.ofBytes bytes).resolve
    let diagnostics :=
      Diagnostic.sort (reported file resolver errorSeverity (all problems markers))
    ∃ ordered, InByteOrder (all problems markers) ordered ∧
      List.Forall₂ (fun entry diagnostic =>
        entry.1.Shows file resolver errorSeverity diagnostic) ordered diagnostics ∧
      ∀ left ∈ ordered.zip diagnostics, ∀ right ∈ ordered.zip diagnostics,
        left.2.position = right.2.position ↔ left.1.1.byteOffset = right.1.1.byteOffset := by
  intro resolver diagnostics
  have ascending := LineTable.ofBytes_ascending small
  have at_bytes : ∀ finding ∈ all problems markers, finding.AtByte := by
    intro finding member
    rcases List.mem_append.mp member with inside | inside
    · rcases List.mem_map.mp inside with ⟨found, given, rfl⟩
      exact bounded found given
    · rcases List.mem_map.mp inside with ⟨found, given, rfl⟩
      exact placed found given
  have reported (finding : Finding) (member : finding ∈ all problems markers) :
      ∃ diagnostic, finding.Shows file resolver errorSeverity diagnostic :=
    (reportable_iff_exists_shows ..).mp (at_bytes finding member).reportable
  -- Every finding is shown somewhere, so one diagnostic can be picked for each of them.
  have : Nonempty Diagnostic := ⟨.place "" file ⟨1, 1⟩ false⟩
  choose! diagnosticOf shows using reported
  rcases exists_inByteOrder (all problems markers) with ⟨ordered, order⟩
  have member (entry : Finding × Nat) (inside : entry ∈ ordered) :
      entry.1 ∈ all problems markers :=
    List.fst_mem_of_mem_zipIdx (order.gathered.mem_iff.mp inside)
  have listed : diagnostics = ordered.map fun entry => diagnosticOf entry.1 := by
    have same := (order.inEditorOrder ascending at_bytes shows).map_eq_sort_reported
    rw [List.map_map] at same
    exact same.symm
  refine ⟨ordered, order, ?_, ?_⟩
  · rw [listed, List.forall₂_map_right_iff, List.forall₂_same]
    exact fun entry inside => shows _ (member entry inside)
  · have paired : ordered.zip diagnostics =
        ordered.map fun entry => (entry, diagnosticOf entry.1) := by
      rw [listed]
      conv => lhs; arg 1; rw [← List.map_id ordered]
      exact List.zip_map'
    rw [paired]
    intro left left_mem right right_mem
    rcases List.mem_map.mp left_mem with ⟨entry, inside, rfl⟩
    rcases List.mem_map.mp right_mem with ⟨entry', inside', rfl⟩
    exact position_eq_iff_byteOffset_eq ascending (at_bytes _ (member entry inside))
      (at_bytes _ (member entry' inside')) (shows _ (member entry inside))
      (shows _ (member entry' inside'))

/-- Two lines with a break of two bytes: a problem past the end, and a problem and a marker that
both stand where the second line starts. -/
theorem sort_reported_follows_bytes_of_tie :
    let bytes : Bytes := [0x61, 0x0D, 0x0A, 0x62]
    let problems : List Problem := [⟨"late", 9, false⟩, ⟨"tied", 3, true⟩]
    let markers : List Marker :=
      [{ kind := .problem, charStart := some 3 }, { kind := .problem, charStart := some 1 }]
    let resolver := (LineTable.ofBytes bytes).resolve
    let diagnostics := Diagnostic.sort (reported ⟨[]⟩ resolver 2 (all problems markers))
    bytes.length < 2 ^ 32 ∧ (∀ problem ∈ problems, problem.start.toNat < 2 ^ 32 - 1) ∧
      (∀ marker ∈ markers,
        marker.kind ≠ .task ∧ ∃ start, marker.charStart = some start ∧ 0 < start) ∧
      ∃ ordered, InByteOrder (all problems markers) ordered ∧
        List.Forall₂ (fun entry diagnostic => entry.1.Shows ⟨[]⟩ resolver 2 diagnostic) ordered
          diagnostics ∧
        ∀ left ∈ ordered.zip diagnostics, ∀ right ∈ ordered.zip diagnostics,
          left.2.position = right.2.position ↔ left.1.1.byteOffset = right.1.1.byteOffset := by
  intro bytes problems markers resolver diagnostics
  have small : bytes.length < 2 ^ 32 := by decide
  have bounded : ∀ problem ∈ problems, problem.start.toNat < 2 ^ 32 - 1 := by decide
  have placed : ∀ marker ∈ markers,
      marker.kind ≠ .task ∧ ∃ start, marker.charStart = some start ∧ 0 < start := by
    simp only [markers, List.forall_mem_cons]
    exact ⟨⟨by decide, 3, rfl, by decide⟩, ⟨by decide, 1, rfl, by decide⟩, List.forall_mem_nil _⟩
  exact ⟨small, bounded, placed,
    sort_reported_follows_bytes bytes small problems markers ⟨[]⟩ 2 bounded placed⟩

end SourceDiagnostics.Finding
