import Mathlib.Algebra.Group.Nat.Defs
import SourceDiagnostics.LineTable

/-!
Line tables as ascending lists. The starts of the lines of a file ascend as long as the file is not
too large for its offsets, and in a table whose starts ascend a later offset has a later position
(`Ascending.resolve_lt`): either it is past more line breaks, or it is on the same line and further
to the right.
-/

namespace SourceDiagnostics.LineTable

def Ascending (table : LineTable) : Prop :=
  table.starts.Pairwise (· < ·)

/-! The ends of line breaks, as natural numbers. -/

theorem bounds_of_mem_breakEndsFrom {position : Nat} {bytes : Bytes} {stop : Nat}
    (member : stop ∈ breakEndsFrom position bytes) :
    position < stop ∧ stop ≤ position + bytes.length := by
  induction bytes generalizing position with
  | nil => cases member
  | cons byte rest induction =>
      have later (inside : stop ∈ breakEndsFrom (position + 1) rest) :
          position < stop ∧ stop ≤ position + (byte :: rest).length := by
        have bounds := induction inside
        rw [List.length_cons]
        omega
      rw [breakEndsFrom] at member
      split at member
      · rcases List.mem_cons.mp member with rfl | inside
        · rw [List.length_cons]
          omega
        · exact later inside
      · exact later member

theorem breakEndsFrom_ascending (position : Nat) (bytes : Bytes) :
    (breakEndsFrom position bytes).Pairwise (· < ·) := by
  induction bytes generalizing position with
  | nil => exact .nil
  | cons byte rest induction =>
      rw [breakEndsFrom]
      split
      · exact .cons (fun stop member => (bounds_of_mem_breakEndsFrom member).left)
          (induction (position + 1))
      · exact induction (position + 1)

theorem toNat_breakEnds {bytes : Bytes} (small : bytes.length < 2 ^ 32) :
    (ofBytes bytes).breakEnds.map UInt32.toNat = breakEndsFrom 0 bytes := by
  rw [breakEnds_ofBytes, List.map_map]
  conv => rhs; rw [← List.map_id (breakEndsFrom 0 bytes)]
  apply List.map_congr_left
  intro stop member
  have bounds := bounds_of_mem_breakEndsFrom member
  exact UInt32.toNat_ofNatClamp_of_lt (by rw [UInt32.size]; omega)

theorem toNat_mem_breakEndsFrom {bytes : Bytes} (small : bytes.length < 2 ^ 32) {stop : Offset}
    (member : stop ∈ (ofBytes bytes).breakEnds) : stop.toNat ∈ breakEndsFrom 0 bytes := by
  rw [← toNat_breakEnds small]
  exact List.mem_map_of_mem member

theorem ofBytes_ascending {bytes : Bytes} (small : bytes.length < 2 ^ 32) :
    (ofBytes bytes).Ascending := by
  have ends : (ofBytes bytes).breakEnds.Pairwise fun left right => left.toNat < right.toNat := by
    rw [← List.pairwise_map, toNat_breakEnds small]
    exact breakEndsFrom_ascending 0 bytes
  apply List.Pairwise.cons _ (ends.imp UInt32.lt_iff_toNat_lt.mpr)
  intro stop member
  rw [UInt32.lt_iff_toNat_lt]
  exact (bounds_of_mem_breakEndsFrom (toNat_mem_breakEndsFrom small member)).left

/-! Resolving an offset. -/

def passed (table : LineTable) (offset : Offset) : List Offset :=
  table.breakEnds.takeWhile (· ≤ offset)

theorem le_of_mem_passed {table : LineTable} {offset stop : Offset}
    (member : stop ∈ table.passed offset) : stop ≤ offset := by
  have within := List.all_takeWhile (p := fun stop => decide (stop ≤ offset)) (l := table.breakEnds)
  exact of_decide_eq_true (List.all_eq_true.mp within stop member)

/-- Where the line of an offset starts. -/
def lineStartOf (table : LineTable) (offset : Offset) : Offset :=
  (table.passed offset).getLastD 0

theorem lineStartOf_le (table : LineTable) (offset : Offset) :
    table.lineStartOf offset ≤ offset := by
  rw [lineStartOf, List.getLastD_eq_getLast?]
  cases last : (table.passed offset).getLast? with
  | none => exact UInt32.zero_le
  | some stop => exact le_of_mem_passed (List.mem_of_getLast? last)

theorem toNat_resolve_line (table : LineTable) (offset : Offset) :
    (table.resolve offset).line.toNat =
      min ((table.passed offset).length + 1) (2 ^ 32 - 1) := by
  change (max (UInt32.ofNatClamp ((table.passed offset).length + 1)) 1).toNat = _
  rw [Position.toNat_max_one]
  by_cases counted : (table.passed offset).length + 1 < UInt32.size
  · rw [UInt32.toNat_ofNatClamp_of_lt counted]
    rw [UInt32.size] at counted
    omega
  · rw [UInt32.toNat_ofNatClamp_of_le (Nat.le_of_not_lt counted)]
    rw [UInt32.size] at counted ⊢
    omega

theorem toNat_resolve_column (table : LineTable) {offset : Offset}
    (fits : offset.toNat - (table.lineStartOf offset).toNat + 1 < 2 ^ 32) :
    (table.resolve offset).column.toNat = offset.toNat - (table.lineStartOf offset).toNat + 1 := by
  have start := table.lineStartOf_le offset
  change (max (offset - table.lineStartOf offset + 1) 1).toNat = _
  rw [Position.toNat_max_one, UInt32.toNat_add, UInt32.toNat_sub_of_le _ _ start]
  change max ((offset.toNat - (table.lineStartOf offset).toNat + 1) % 2 ^ 32) 1 = _
  omega

/-- An offset whose position can be written down: neither its line nor its column is too large a
number. Only the last offset of all can fail to fit. On the first line its column is one too many;
in a file of nothing but line breaks of one byte each, its line is. -/
structure Fits (table : LineTable) (offset : Offset) : Prop where
  line : (table.passed offset).length + 1 < 2 ^ 32
  column : offset.toNat - (table.lineStartOf offset).toNat + 1 < 2 ^ 32

theorem Fits.toNat_line {table : LineTable} {offset : Offset} (fits : table.Fits offset) :
    (table.resolve offset).line.toNat = (table.passed offset).length + 1 := by
  rw [toNat_resolve_line]
  exact Nat.min_eq_left (Nat.le_pred_of_lt fits.line)

theorem Fits.toNat_column {table : LineTable} {offset : Offset} (fits : table.Fits offset) :
    (table.resolve offset).column.toNat = offset.toNat - (table.lineStartOf offset).toNat + 1 :=
  table.toNat_resolve_column fits.column

theorem passed_prefix (table : LineTable) {left right : Offset} (le : left ≤ right) :
    table.passed left <+: table.passed right := by
  rw [passed, passed]
  induction table.breakEnds with
  | nil => exact List.prefix_refl _
  | cons stop rest induction =>
      rw [List.takeWhile_cons, List.takeWhile_cons]
      by_cases before : stop ≤ left
      · rw [if_pos (decide_eq_true before), if_pos (decide_eq_true (UInt32.le_trans before le))]
        exact List.prefix_cons_inj stop |>.mpr induction
      · rw [if_neg (by simpa using before)]
        exact List.nil_prefix

theorem length_le_of_ascending {values : List Nat} {low high : Nat}
    (ascending : values.Pairwise (· < ·)) (above : ∀ value ∈ values, low < value)
    (below : ∀ value ∈ values, value ≤ high) : values.length ≤ high - low := by
  induction values generalizing low with
  | nil => exact Nat.zero_le _
  | cons head tail induction =>
      rcases List.pairwise_cons.mp ascending with ⟨first, rest⟩
      have shorter := induction rest first fun value member =>
        below value (List.mem_cons_of_mem head member)
      have := above head List.mem_cons_self
      have := below head List.mem_cons_self
      rw [List.length_cons]
      omega

namespace Ascending

variable {table : LineTable} (ascending : table.Ascending)

include ascending

theorem length_passed_le (offset : Offset) : (table.passed offset).length ≤ offset.toNat := by
  rcases List.pairwise_cons.mp ascending with ⟨positive, ends⟩
  have sublist : (table.passed offset).Sublist table.breakEnds := List.takeWhile_sublist _
  have counted : ((table.passed offset).map UInt32.toNat).length ≤ offset.toNat - 0 :=
    length_le_of_ascending
      (List.pairwise_map.mpr ((ends.sublist sublist).imp UInt32.lt_iff_toNat_lt.mp))
      (List.forall_mem_map.mpr fun stop member =>
        UInt32.lt_iff_toNat_lt.mp (positive stop (sublist.subset member)))
      (List.forall_mem_map.mpr fun stop member =>
        UInt32.le_iff_toNat_le.mp (le_of_mem_passed member))
  rwa [List.length_map] at counted

theorem fits {offset : Offset} (bound : offset.toNat < 2 ^ 32 - 1) : table.Fits offset := by
  have few := ascending.length_passed_le offset
  constructor <;> omega

theorem resolve_lt {left right : Offset} (lt : left < right) (fits : table.Fits right) :
    (table.resolve left).line < (table.resolve right).line ∨
      (table.resolve left).line = (table.resolve right).line ∧
        (table.resolve left).column < (table.resolve right).column := by
  have before : left.toNat < right.toNat := UInt32.lt_iff_toNat_lt.mp lt
  have last : right.toNat < 2 ^ 32 := right.toNat_lt
  have fits' : table.Fits left := ascending.fits (by omega)
  have longer := table.passed_prefix (UInt32.le_of_lt lt)
  simp only [UInt32.lt_iff_toNat_lt, ← UInt32.toNat_inj, fits.toNat_line, fits'.toNat_line,
    fits.toNat_column, fits'.toNat_column]
  rcases Nat.lt_or_eq_of_le longer.length_le with fewer | same
  · exact .inl (Nat.succ_lt_succ fewer)
  · refine .inr ⟨congrArg Nat.succ same, ?_⟩
    have start : table.lineStartOf left = table.lineStartOf right := by
      rw [lineStartOf, lineStartOf, longer.eq_of_length same]
    have within := UInt32.le_iff_toNat_le.mp (table.lineStartOf_le left)
    rw [start] at within ⊢
    omega

end Ascending

end SourceDiagnostics.LineTable
