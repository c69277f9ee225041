import Mathlib.Data.Finset.Lattice.Fold
import Mathlib.Data.List.TakeWhile
import Mathlib.Order.Interval.Finset.Nat
import Mathlib.Order.Lattice.Nat
import SourceDiagnostics.Proofs.LineTable.Lines

/-!
Line breaks. Where lines break can be said byte by byte, without a scan (`IsBreakEnd`). A table
holds the ends of these breaks and nothing else, so the position of an offset comes down to the
number of breaks up to it (`card_breaksUpTo`) and the last of them (`sup_breaksUpTo`).
-/

namespace SourceDiagnostics.LineTable

/-- A line break ends at an offset: the byte before it is a line feed, or a carriage return that no
line feed follows. -/
def IsBreakEnd (bytes : Bytes) (stop : Nat) : Prop :=
  1 ≤ stop ∧ stop ≤ bytes.length ∧
    (bytes[stop - 1]? = some lineFeed ∨
      bytes[stop - 1]? = some carriageReturn ∧ bytes[stop]? ≠ some lineFeed)

instance (bytes : Bytes) : DecidablePred (IsBreakEnd bytes) := fun stop =>
  inferInstanceAs (Decidable (1 ≤ stop ∧ stop ≤ bytes.length ∧
    (bytes[stop - 1]? = some lineFeed ∨
      bytes[stop - 1]? = some carriageReturn ∧ bytes[stop]? ≠ some lineFeed)))

def breaksUpTo (bytes : Bytes) (offset : Nat) : Finset Nat :=
  (Finset.range (offset + 1)).filter (IsBreakEnd bytes)

/-! The scan finds the ends of the breaks. -/

theorem isBreakEnd_cons_one (byte : UInt8) (rest : Bytes) :
    IsBreakEnd (byte :: rest) 1 ↔
      byte = lineFeed ∨ byte = carriageReturn ∧ rest.head? ≠ some lineFeed := by
  simp [IsBreakEnd, List.head?_eq_getElem?]

theorem isBreakEnd_cons_succ {byte : UInt8} {rest : Bytes} {stop : Nat} (positive : 1 ≤ stop) :
    IsBreakEnd (byte :: rest) (stop + 1) ↔ IsBreakEnd rest stop := by
  rcases Nat.exists_eq_add_of_le' positive with ⟨before, rfl⟩
  simp [IsBreakEnd]

theorem add_mem_breakEndsFrom_iff (position stop : Nat) (bytes : Bytes) :
    position + stop ∈ breakEndsFrom position bytes ↔ IsBreakEnd bytes stop := by
  induction bytes generalizing position stop with
  | nil =>
      refine iff_of_false List.not_mem_nil ?_
      rintro ⟨positive, none_left, -⟩
      exact absurd (Nat.le_trans positive none_left) (by decide)
  | cons byte rest induction =>
      have outside (earlier : stop ≤ 1) :
          position + stop ∉ breakEndsFrom (position + 1) rest := fun inside =>
        absurd (bounds_of_mem_breakEndsFrom inside).left (by omega)
      rw [breakEndsFrom]
      rcases Nat.lt_trichotomy stop 1 with zero | rfl | later
      · have before : ¬ IsBreakEnd (byte :: rest) stop := fun ends =>
          Nat.not_le.mpr zero ends.left
        refine iff_of_false ?_ before
        split
        · exact List.not_mem_cons_of_ne_of_not_mem (by omega) (outside (by omega))
        · exact outside (by omega)
      · rw [isBreakEnd_cons_one]
        split
        · next ends => exact iff_of_true List.mem_cons_self ends
        · next continues => exact iff_of_false (outside (Nat.le_refl 1)) continues
      · rcases Nat.exists_eq_add_of_le' (Nat.le_of_lt later) with ⟨further, rfl⟩
        have moved : position + (further + 1) = position + 1 + further := by omega
        rw [isBreakEnd_cons_succ (by omega), ← induction (position + 1) further, moved]
        split
        · rw [List.mem_cons, or_iff_right (by omega)]
        · rfl

theorem mem_breakEndsFrom_zero_iff (stop : Nat) (bytes : Bytes) :
    stop ∈ breakEndsFrom 0 bytes ↔ IsBreakEnd bytes stop := by
  rw [← add_mem_breakEndsFrom_iff 0, Nat.zero_add]

theorem mem_breaksUpTo_iff (bytes : Bytes) (offset stop : Nat) :
    stop ∈ breaksUpTo bytes offset ↔ IsBreakEnd bytes stop ∧ stop ≤ offset := by
  rw [breaksUpTo, Finset.mem_filter, Finset.mem_range, Nat.lt_succ_iff, and_comm]

/-! What a table passes is what there is up to an offset. -/

theorem Ascending.le_lineStartOf {table : LineTable} (ascending : table.Ascending)
    {offset stop : Offset} (member : stop ∈ table.passed offset) :
    stop ≤ table.lineStartOf offset := by
  have line := ascending.length_passed_of_start (table.getElem?_starts_length_passed offset)
  have same := (table.passed_prefix (table.lineStartOf_le offset)).eq_of_length line
  exact le_of_mem_passed (same ▸ member)

theorem lineStartOf_mem (table : LineTable) (offset : Offset) :
    table.lineStartOf offset = 0 ∨ table.lineStartOf offset ∈ table.passed offset := by
  rw [lineStartOf, List.getLastD_eq_getLast?]
  cases last : (table.passed offset).getLast? with
  | none => exact .inl rfl
  | some stop => exact .inr (List.mem_of_getLast? last)

section

variable {bytes : Bytes} (small : bytes.length < 2 ^ 32) (offset : Offset)

include small

theorem mem_breaksUpTo_iff_passed (stop : Nat) :
    stop ∈ breaksUpTo bytes offset.toNat ↔
      stop ∈ ((ofBytes bytes).passed offset).map UInt32.toNat := by
  rw [mem_breaksUpTo_iff, ← mem_breakEndsFrom_zero_iff, ← toNat_breakEnds small, List.mem_map,
    List.mem_map]
  simp only [(ofBytes_ascending small).mem_passed_iff]
  constructor
  · rintro ⟨⟨found, member, rfl⟩, le⟩
    exact ⟨found, ⟨member, UInt32.le_iff_toNat_le.mpr le⟩, rfl⟩
  · rintro ⟨found, ⟨member, le⟩, rfl⟩
    exact ⟨⟨found, member, rfl⟩, UInt32.le_iff_toNat_le.mp le⟩

theorem card_breaksUpTo :
    (breaksUpTo bytes offset.toNat).card = ((ofBytes bytes).passed offset).length := by
  have ends := (List.pairwise_cons.mp (ofBytes_ascending small)).right
  have distinct : (((ofBytes bytes).passed offset).map UInt32.toNat).Nodup :=
    List.pairwise_map.mpr ((ends.sublist (List.takeWhile_sublist _)).imp fun before =>
      Nat.ne_of_lt (UInt32.lt_iff_toNat_lt.mp before))
  have same : breaksUpTo bytes offset.toNat =
      (((ofBytes bytes).passed offset).map UInt32.toNat).toFinset := by
    ext stop
    rw [mem_breaksUpTo_iff_passed small, List.mem_toFinset]
  rw [same, List.toFinset_card_of_nodup distinct, List.length_map]

theorem sup_breaksUpTo :
    (breaksUpTo bytes offset.toNat).sup id = ((ofBytes bytes).lineStartOf offset).toNat := by
  apply Nat.le_antisymm
  · apply Finset.sup_le
    intro stop member
    rcases List.mem_map.mp ((mem_breaksUpTo_iff_passed small offset stop).mp member) with
      ⟨found, inside, rfl⟩
    exact UInt32.le_iff_toNat_le.mp ((ofBytes_ascending small).le_lineStartOf inside)
  · rcases (ofBytes bytes).lineStartOf_mem offset with first | inside
    · rw [first]
      exact Nat.zero_le _
    · have member := (mem_breaksUpTo_iff_passed small offset _).mpr (List.mem_map_of_mem inside)
      exact Finset.le_sup (f := id) member

theorem lineCount_of_length_le (past : bytes.length ≤ offset.toNat) :
    (ofBytes bytes).lineCount = ((ofBytes bytes).passed offset).length + 1 := by
  have all : (ofBytes bytes).passed offset = (ofBytes bytes).breakEnds := by
    rw [passed, List.takeWhile_eq_self_iff]
    intro stop member
    have bounds := bounds_of_mem_breakEndsFrom (toNat_mem_breakEndsFrom small member)
    exact decide_eq_true (UInt32.le_iff_toNat_le.mpr (by omega))
  rw [all]
  rfl

end

/-- A table starts at zero and goes on with the ends of the line breaks. The line of an offset is
one more than the number of breaks up to it, and its column one more than its distance from the
last of them; from the end of the file on the line is the last one. A search by halving finds this
at every offset, and never looks past the table or below zero. Line numbers have 32 bits: at the
last offset of all, if every byte before it ends a line, there is one line too many for them, and
the number is held at the largest. -/
theorem resolve_counts_breaks (bytes : Bytes) (small : bytes.length < 2 ^ 32) :
    let table := ofBytes bytes
    (∃ ends : List Nat, table.starts.map UInt32.toNat = 0 :: ends ∧ ends.Pairwise (· < ·) ∧
      (∀ stop, stop ∈ ends ↔ IsBreakEnd bytes stop) ∧ table.lineCount = ends.length + 1) ∧
    ∀ offset : Offset,
      let passed := breaksUpTo bytes offset.toNat
      let start := passed.sup id
      table.search? offset = some (1 + passed.card, offset.toNat - start) ∧
      (bytes.length ≤ offset.toNat → 1 + passed.card = table.lineCount) ∧
      (offset.toNat - start + 1 < 2 ^ 32 →
        (table.resolve offset).line.toNat = min (1 + passed.card) (2 ^ 32 - 1) ∧
          (table.resolve offset).column.toNat = offset.toNat - start + 1) := by
  intro table
  constructor
  · refine ⟨breakEndsFrom 0 bytes, ?_, breakEndsFrom_ascending 0 bytes, ?_, ?_⟩
    · rw [starts, List.map_cons, toNat_breakEnds small]
      rfl
    · exact fun stop => mem_breakEndsFrom_zero_iff stop bytes
    · rw [lineCount, starts, List.length_cons, ← toNat_breakEnds small, List.length_map]
  · intro offset passed start
    have count : 1 + passed.card = (table.passed offset).length + 1 := by
      rw [card_breaksUpTo small, Nat.add_comm]
    have last : start = (table.lineStartOf offset).toNat := sup_breaksUpTo small offset
    rw [count, last]
    refine ⟨(ofBytes_ascending small).search?_eq offset, ?_, fun fits => ⟨?_, ?_⟩⟩
    · exact fun past => (lineCount_of_length_le small offset past).symm
    · exact table.toNat_resolve_line offset
    · exact table.toNat_resolve_column fits

/-- Three breaks, of which the first two have four bytes between them: a carriage return alone, one
with its line feed, and one at the end of the file. -/
theorem resolve_counts_breaks_of_mixed :
    let bytes : Bytes := [0x61, 0x0D, 0x0D, 0x0A, 0x62, 0x0D]
    let table := ofBytes bytes
    bytes.length < 2 ^ 32 ∧ table.search? 5 = some (3, 1) ∧
      ((table.resolve 5).line.toNat = 3 ∧ (table.resolve 5).column.toNat = 2) ∧
      table.search? 6 = some (4, 0) ∧ table.lineCount = 4 := by
  intro bytes table
  have small : bytes.length < 2 ^ 32 := by decide
  have counted := (resolve_counts_breaks bytes small).right
  have passed : (breaksUpTo bytes (5 : Offset).toNat).card = 2 := by decide
  have start : (breaksUpTo bytes (5 : Offset).toNat).sup id = 4 := by decide
  have passed' : (breaksUpTo bytes (6 : Offset).toNat).card = 3 := by decide
  have start' : (breaksUpTo bytes (6 : Offset).toNat).sup id = 6 := by decide
  have inside := counted 5
  have past := counted 6
  simp only [passed, start] at inside
  simp only [passed', start'] at past
  exact ⟨small, inside.left, inside.right.right (by decide), past.left,
    (past.right.left (by decide)).symm⟩

/-! In a file of nothing but line feeds each offset is the start of a line, and the largest file of
this kind has one line too many. -/

theorem isBreakEnd_replicate_lineFeed_iff (count stop : Nat) :
    IsBreakEnd (List.replicate count lineFeed) stop ↔ 1 ≤ stop ∧ stop ≤ count := by
  rw [IsBreakEnd, List.length_replicate]
  refine ⟨fun ends => ⟨ends.left, ends.right.left⟩, fun ⟨positive, within⟩ => ?_⟩
  refine ⟨positive, within, .inl ?_⟩
  rw [List.getElem?_replicate, if_pos (by omega)]

theorem breaksUpTo_replicate_lineFeed {count offset : Nat} (within : offset ≤ count) :
    breaksUpTo (List.replicate count lineFeed) offset = Finset.Icc 1 offset := by
  ext stop
  rw [mem_breaksUpTo_iff, isBreakEnd_replicate_lineFeed_iff, Finset.mem_Icc]
  omega

theorem card_breaksUpTo_replicate_lineFeed {count offset : Nat} (within : offset ≤ count) :
    (breaksUpTo (List.replicate count lineFeed) offset).card = offset := by
  rw [breaksUpTo_replicate_lineFeed within, Nat.card_Icc, Nat.add_sub_cancel]

theorem sup_breaksUpTo_replicate_lineFeed {count offset : Nat} (within : offset ≤ count) :
    (breaksUpTo (List.replicate count lineFeed) offset).sup id = offset := by
  rw [breaksUpTo_replicate_lineFeed within]
  apply Nat.le_antisymm
  · exact Finset.sup_le fun stop member => (Finset.mem_Icc.mp member).right
  · rcases Nat.eq_zero_or_pos offset with rfl | positive
    · exact Nat.zero_le _
    · exact Finset.le_sup (f := id) (Finset.mem_Icc.mpr ⟨positive, Nat.le_refl offset⟩)

section

variable {count : Nat} (small : count < 2 ^ 32) {offset : Offset} (within : offset.toNat ≤ count)

include small within

theorem length_passed_replicate_lineFeed :
    ((ofBytes (List.replicate count lineFeed)).passed offset).length = offset.toNat := by
  rw [← card_breaksUpTo (by rwa [List.length_replicate]), card_breaksUpTo_replicate_lineFeed within]

theorem lineStartOf_replicate_lineFeed :
    (ofBytes (List.replicate count lineFeed)).lineStartOf offset = offset := by
  rw [← UInt32.toNat_inj, ← sup_breaksUpTo (by rwa [List.length_replicate]),
    sup_breaksUpTo_replicate_lineFeed within]

theorem resolve_replicate_lineFeed :
    let position := (ofBytes (List.replicate count lineFeed)).resolve offset
    position.line.toNat = min (offset.toNat + 1) (2 ^ 32 - 1) ∧ position.column.toNat = 1 := by
  have first : offset.toNat -
      ((ofBytes (List.replicate count lineFeed)).lineStartOf offset).toNat + 1 = 1 := by
    rw [lineStartOf_replicate_lineFeed small within, Nat.sub_self]
  intro position
  constructor
  · rw [toNat_resolve_line, length_passed_replicate_lineFeed small within]
  · rw [toNat_resolve_column _ (by rw [first]; decide), first]

end

/-- In the largest file of line feeds the line found at the last offset is neither one more than the
number of breaks up to there nor the last line, though it is in its first column. -/
theorem line_of_last_offset_too_small :
    let bytes := List.replicate (2 ^ 32 - 1) lineFeed
    let table := ofBytes bytes
    let offset : Offset := 4294967295
    let passed := breaksUpTo bytes offset.toNat
    bytes.length < 2 ^ 32 ∧ bytes.length ≤ offset.toNat ∧
      offset.toNat - passed.sup id + 1 < 2 ^ 32 ∧
      1 + passed.card = 2 ^ 32 ∧ table.lineCount = 2 ^ 32 ∧
      (table.resolve offset).line.toNat ≠ 1 + passed.card ∧
      (table.resolve offset).line.toNat ≠ table.lineCount := by
  intro bytes table offset passed
  have length : bytes.length = 2 ^ 32 - 1 := List.length_replicate
  have within : offset.toNat ≤ 2 ^ 32 - 1 := by decide
  have small : bytes.length < 2 ^ 32 := by
    rw [length]
    decide
  have past : bytes.length ≤ offset.toNat := by
    rw [length]
    decide
  have start : passed.sup id = offset.toNat := sup_breaksUpTo_replicate_lineFeed within
  have count : 1 + passed.card = 2 ^ 32 := by
    rw [show passed.card = offset.toNat from card_breaksUpTo_replicate_lineFeed within]
    decide
  have lines : table.lineCount = 2 ^ 32 := by
    rw [lineCount_of_length_le small offset past, ← card_breaksUpTo small, Nat.add_comm]
    exact count
  have line := (resolve_replicate_lineFeed (by decide) within).left
  have below : (table.resolve offset).line.toNat ≠ 2 ^ 32 := by
    rw [show (table.resolve offset).line.toNat = _ from line]
    decide
  refine ⟨small, past, ?_, count, lines, ?_, ?_⟩
  · rw [start, Nat.sub_self]
    decide
  · rwa [count]
  · rwa [lines]

end SourceDiagnostics.LineTable
