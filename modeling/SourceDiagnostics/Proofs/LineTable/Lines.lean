import Mathlib.Data.Nat.PSub
import SourceDiagnostics.Proofs.LineTable.Ascending

/-!
Lines by number. An offset splits the starts of a table in two: those at or before it, the last of
which is the start of its line, and those after it. In an ascending table one start is enough to
tell on which side of it an offset is (`Ascending.start_le_iff`). So the line of an offset can be
looked for by halving (`Ascending.search?_eq`), and it is known from two starts in a row
(`Ascending.length_passed_eq`).
-/

namespace SourceDiagnostics.LineTable

def upcoming (table : LineTable) (offset : Offset) : List Offset :=
  table.breakEnds.dropWhile (· ≤ offset)

theorem breakEnds_eq (table : LineTable) (offset : Offset) :
    table.breakEnds = table.passed offset ++ table.upcoming offset :=
  List.takeWhile_append_dropWhile.symm

theorem starts_eq (table : LineTable) (offset : Offset) :
    table.starts = (0 :: table.passed offset) ++ table.upcoming offset :=
  congrArg (0 :: ·) (table.breakEnds_eq offset)

theorem getElem?_starts_length_passed (table : LineTable) (offset : Offset) :
    table.starts[(table.passed offset).length]? = some (table.lineStartOf offset) := by
  have last : (0 :: table.passed offset).getLast? = some (table.lineStartOf offset) := by
    rw [List.getLast?_cons, lineStartOf, List.getLastD_eq_getLast?]
  rw [table.starts_eq offset, List.getElem?_append_left (Nat.lt_succ_self _), ← last,
    List.getLast?_eq_getElem?]
  rfl

theorem length_passed_lt (table : LineTable) (offset : Offset) :
    (table.passed offset).length < table.lineCount := by
  rw [lineCount, table.starts_eq offset, List.length_append, List.length_cons]
  omega

theorem lineStart?_eq_some_iff (table : LineTable) (line : UInt32) (start : Offset) :
    table.lineStart? line = some start ↔
      1 ≤ line.toNat ∧ table.starts[line.toNat - 1]? = some start := by
  rw [lineStart?]
  by_cases zero : line = 0
  · rw [if_pos zero, zero]
    exact iff_of_false nofun fun positive => absurd positive.left (by decide)
  · have positive : 1 ≤ line.toNat :=
      Nat.one_le_iff_ne_zero.mpr fun same => zero (UInt32.toNat_inj.mp same)
    rw [if_neg zero]
    exact ⟨fun found => ⟨positive, found⟩, And.right⟩

theorem lineStart?_isSome_iff (table : LineTable) (line : UInt32) :
    (table.lineStart? line).isSome ↔ 1 ≤ line.toNat ∧ line.toNat ≤ table.lineCount := by
  rw [lineCount, Option.isSome_iff_exists]
  constructor
  · rintro ⟨start, found⟩
    rcases (lineStart?_eq_some_iff ..).mp found with ⟨positive, found⟩
    rcases List.getElem?_eq_some_iff.mp found with ⟨bound, -⟩
    omega
  · rintro ⟨positive, bound⟩
    have found := List.getElem?_eq_getElem (Nat.sub_one_lt_of_le positive bound)
    exact ⟨_, (lineStart?_eq_some_iff ..).mpr ⟨positive, found⟩⟩

theorem resolve_eq_resolve {table table' : LineTable} {offset offset' : Offset}
    (line : (table.passed offset).length = (table'.passed offset').length)
    (column : offset.toNat - (table.lineStartOf offset).toNat =
      offset'.toNat - (table'.lineStartOf offset').toNat) :
    table.resolve offset = table'.resolve offset' := by
  have distance : offset - table.lineStartOf offset = offset' - table'.lineStartOf offset' := by
    rw [← UInt32.toNat_inj, UInt32.toNat_sub_of_le _ _ (table.lineStartOf_le offset),
      UInt32.toNat_sub_of_le _ _ (table'.lineStartOf_le offset'), column]
  change Position.clamped (UInt32.ofNatClamp ((table.passed offset).length + 1))
      (offset - table.lineStartOf offset + 1) =
    Position.clamped (UInt32.ofNatClamp ((table'.passed offset').length + 1))
      (offset' - table'.lineStartOf offset' + 1)
  rw [line, distance]

/-! Looking for a line by halving. -/

/-- How many of some starts are at or before an offset, if there are at least `low` and at most
`high` of them. There is no answer if the search looks for a start where there is none. -/
def bisect (starts : List Offset) (offset : Offset) (low high : Nat) : Option Nat :=
  if low < high then
    match starts[(low + high) / 2]? with
    | none => none
    | some start =>
        if start ≤ offset then bisect starts offset ((low + high) / 2 + 1) high
        else bisect starts offset low ((low + high) / 2)
  else some low
termination_by high - low

/-- The number of the line of an offset, and how many bytes of the line are before it, as a search
by halving finds them. Indices and differences are checked: there is no answer if one of them is
out of range. -/
def search? (table : LineTable) (offset : Offset) : Option (Nat × Nat) := do
  let line ← bisect table.starts offset 0 table.starts.length
  let index ← line.ppred
  let start ← table.starts[index]?
  let before ← offset.toNat.psub start.toNat
  return (line, before)

namespace Ascending

variable {table : LineTable} (ascending : table.Ascending)

include ascending

theorem lt_of_mem_upcoming {offset stop : Offset} (member : stop ∈ table.upcoming offset) :
    offset < stop := by
  have ends : (table.upcoming offset).Pairwise (· < ·) :=
    (List.pairwise_cons.mp ascending).right.sublist (List.dropWhile_sublist _)
  have first := List.head?_dropWhile_not (fun stop => decide (stop ≤ offset)) table.breakEnds
  rw [← upcoming] at first
  cases later : table.upcoming offset with
  | nil =>
      rw [later] at member
      cases member
  | cons head tail =>
      rw [later] at member ends first
      have after : offset < head := UInt32.not_le.mp (of_decide_eq_false first)
      rcases List.mem_cons.mp member with rfl | inside
      · exact after
      · exact UInt32.lt_trans after ((List.pairwise_cons.mp ends).left stop inside)

theorem mem_passed_iff (offset stop : Offset) :
    stop ∈ table.passed offset ↔ stop ∈ table.breakEnds ∧ stop ≤ offset := by
  constructor
  · intro member
    rw [table.breakEnds_eq offset]
    exact ⟨List.mem_append_left _ member, le_of_mem_passed member⟩
  · rintro ⟨member, le⟩
    rw [table.breakEnds_eq offset] at member
    refine (List.mem_append.mp member).resolve_right fun later => ?_
    exact UInt32.not_le.mpr (ascending.lt_of_mem_upcoming later) le

/-- The lines that start at or before an offset are those up to its own. -/
theorem start_le_iff {index : Nat} {start : Offset} (found : table.starts[index]? = some start)
    (offset : Offset) : start ≤ offset ↔ index ≤ (table.passed offset).length := by
  rw [table.starts_eq offset] at found
  rcases Nat.lt_or_ge index (0 :: table.passed offset).length with before | after
  · rw [List.getElem?_append_left before] at found
    refine iff_of_true ?_ (Nat.le_of_lt_succ before)
    rcases List.mem_cons.mp (List.mem_of_getElem? found) with rfl | inside
    · exact UInt32.zero_le
    · exact le_of_mem_passed inside
  · rw [List.getElem?_append_right after] at found
    have later := ascending.lt_of_mem_upcoming (List.mem_of_getElem? found)
    exact iff_of_false (UInt32.not_le.mpr later) (Nat.not_le.mpr after)

theorem length_passed_eq {index : Nat} {start offset : Offset}
    (found : table.starts[index]? = some start) (reached : start ≤ offset)
    (beyond : ∀ next, table.starts[index + 1]? = some next → offset < next) :
    (table.passed offset).length = index := by
  apply Nat.le_antisymm
  · refine Nat.le_of_not_lt fun more => ?_
    have bound : index + 1 < table.starts.length :=
      Nat.lt_of_le_of_lt more (table.length_passed_lt offset)
    have next := List.getElem?_eq_getElem bound
    exact UInt32.not_le.mpr (beyond _ next) ((ascending.start_le_iff next offset).mpr more)
  · exact (ascending.start_le_iff found offset).mp reached

theorem length_passed_of_start {index : Nat} {start : Offset}
    (found : table.starts[index]? = some start) : (table.passed start).length = index := by
  apply ascending.length_passed_eq found (UInt32.le_refl start)
  intro next found'
  rcases List.getElem?_eq_some_iff.mp found with ⟨bound, rfl⟩
  rcases List.getElem?_eq_some_iff.mp found' with ⟨bound', rfl⟩
  exact List.pairwise_iff_getElem.mp ascending _ _ bound bound' (Nat.lt_succ_self index)

theorem lineStartOf_of_start {index : Nat} {start : Offset}
    (found : table.starts[index]? = some start) : table.lineStartOf start = start := by
  have line := table.getElem?_starts_length_passed start
  rw [ascending.length_passed_of_start found, found] at line
  exact (Option.some.inj line).symm

theorem bisect_eq (offset : Offset) {low high : Nat}
    (above : low ≤ (table.passed offset).length + 1)
    (below : (table.passed offset).length + 1 ≤ high) (within : high ≤ table.starts.length) :
    bisect table.starts offset low high = some ((table.passed offset).length + 1) := by
  fun_induction bisect table.starts offset low high with
  | case1 low high narrower missing =>
      have bound : (low + high) / 2 < table.starts.length := by omega
      rw [List.getElem?_eq_getElem bound] at missing
      cases missing
  | case2 low high narrower start found reached induction =>
      have line := (ascending.start_le_iff found offset).mp reached
      exact induction (Nat.succ_le_succ line) below within
  | case3 low high narrower start found unreached induction =>
      have line := mt (ascending.start_le_iff found offset).mpr unreached
      exact induction above (Nat.lt_of_not_le line) (by omega)
  | case4 low high ended =>
      rw [Nat.le_antisymm above (Nat.le_trans below (Nat.le_of_not_lt ended))]

theorem search?_eq (offset : Offset) :
    table.search? offset =
      some ((table.passed offset).length + 1,
        offset.toNat - (table.lineStartOf offset).toNat) := by
  have line : bisect table.starts offset 0 table.starts.length =
      some ((table.passed offset).length + 1) :=
    ascending.bisect_eq offset (Nat.zero_le _) (table.length_passed_lt offset) (Nat.le_refl _)
  have before : offset.toNat.psub (table.lineStartOf offset).toNat =
      some (offset.toNat - (table.lineStartOf offset).toNat) :=
    Nat.psub_eq_sub (UInt32.le_iff_toNat_le.mp (table.lineStartOf_le offset))
  simp [search?, line, table.getElem?_starts_length_passed, before]

end Ascending

end SourceDiagnostics.LineTable
