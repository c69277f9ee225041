import Mathlib.Data.List.Sort
import SourceDiagnostics.Proofs.LineTable.Positions

/-!
What a table answers tells the table. The starts of its lines are the offsets that are found in a
first column (`Ascending.mem_starts_iff`), and an ascending list is known from its members; so two
tables that resolve the starts of their lines alike are one table (`Ascending.eq_of_resolve_eq`).
The same goes for tables that give every line the same start, as long as there is a number for each
of their lines (`eq_of_lineStart?_eq`).
-/

namespace SourceDiagnostics.LineTable

theorem eq_of_starts_eq {left right : LineTable} (same : left.starts = right.starts) :
    left = right := by
  rcases left with ⟨breakEnds⟩
  rcases right with ⟨breakEnds'⟩
  rw [LineTable.mk.injEq]
  exact List.tail_eq_of_cons_eq same

/-! By position. -/

theorem Ascending.mem_starts_iff {table : LineTable} (ascending : table.Ascending)
    {offset : Offset} (fits : table.Fits offset) :
    offset ∈ table.starts ↔ (table.resolve offset).column.toNat = 1 := by
  rw [fits.toNat_column]
  constructor
  · intro member
    rcases List.mem_iff_getElem?.mp member with ⟨index, found⟩
    rw [ascending.lineStartOf_of_start found, Nat.sub_self]
  · intro first
    have le := UInt32.le_iff_toNat_le.mp (table.lineStartOf_le offset)
    have same : table.lineStartOf offset = offset := UInt32.toNat_inj.mp (by omega)
    have found := table.getElem?_starts_length_passed offset
    rw [same] at found
    exact List.mem_of_getElem? found

theorem Ascending.eq_of_resolve_eq {left right : LineTable} (ascending : left.Ascending)
    (ascending' : right.Ascending)
    (within : ∀ start, start ∈ left.starts ∨ start ∈ right.starts → start.toNat < 2 ^ 32 - 1)
    (same : ∀ start, start ∈ left.starts ∨ start ∈ right.starts →
      left.resolve start = right.resolve start) : left = right := by
  apply eq_of_starts_eq
  apply List.Pairwise.eq_of_mem_iff ascending ascending'
  intro start
  have shared (member : start ∈ left.starts ∨ start ∈ right.starts) :
      start ∈ left.starts ↔ start ∈ right.starts := by
    have bound := within start member
    rw [ascending.mem_starts_iff (ascending.fits bound),
      ascending'.mem_starts_iff (ascending'.fits bound), same start member]
  exact ⟨fun member => (shared (.inl member)).mp member,
    fun member => (shared (.inr member)).mpr member⟩

theorem toNat_le_length_of_mem_starts {bytes : Bytes} (small : bytes.length < 2 ^ 32)
    {start : Offset} (member : start ∈ (ofBytes bytes).starts) : start.toNat ≤ bytes.length := by
  rcases List.mem_cons.mp member with rfl | member
  · exact Nat.zero_le _
  · have bounds := bounds_of_mem_breakEndsFrom (toNat_mem_breakEndsFrom small member)
    omega

/-! By line. -/

theorem lineStart?_ofNat_succ (table : LineTable) {index : Nat} (small : index + 1 < 2 ^ 32) :
    table.lineStart? (UInt32.ofNat (index + 1)) = table.starts[index]? := by
  have number : (UInt32.ofNat (index + 1)).toNat = index + 1 := UInt32.toNat_ofNat_of_lt small
  have positive : UInt32.ofNat (index + 1) ≠ 0 := by
    intro zero
    rw [zero] at number
    cases number
  rw [lineStart?, if_neg positive, number, Nat.add_sub_cancel]

theorem eq_of_lineStart?_eq {left right : LineTable} (few : left.lineCount < 2 ^ 32)
    (few' : right.lineCount < 2 ^ 32)
    (same : ∀ line, left.lineStart? line = right.lineStart? line) : left = right := by
  apply eq_of_starts_eq
  apply List.ext_getElem?
  intro index
  by_cases numbered : index + 1 < 2 ^ 32
  · rw [← left.lineStart?_ofNat_succ numbered, ← right.lineStart?_ofNat_succ numbered, same]
  · rw [lineCount] at few few'
    rw [List.getElem?_eq_none (by omega), List.getElem?_eq_none (by omega)]

theorem lineCount_le {bytes : Bytes} (small : bytes.length < 2 ^ 32) :
    (ofBytes bytes).lineCount ≤ bytes.length + 1 := by
  let last := UInt32.ofNat bytes.length
  have length : last.toNat = bytes.length := UInt32.toNat_ofNat_of_lt small
  have counted := (ofBytes_ascending small).length_passed_le last
  rw [lineCount_of_length_le small last (Nat.le_of_eq length.symm), ← length]
  exact Nat.succ_le_succ counted

/-- Two files have the same table just if every offset has the same position in both, and just if
every line has the same start in both. -/
theorem eq_iff_answers_eq (left right : Bytes) (small : left.length < 2 ^ 32 - 1)
    (small' : right.length < 2 ^ 32 - 1) :
    (ofBytes left = ofBytes right ↔ ∀ offset : Offset, offset.toNat < 2 ^ 32 - 1 →
      (ofBytes left).resolve offset = (ofBytes right).resolve offset) ∧
    (ofBytes left = ofBytes right ↔ ∀ line : UInt32,
      (ofBytes left).lineStart? line = (ofBytes right).lineStart? line) := by
  have ascending : (ofBytes left).Ascending := ofBytes_ascending (by omega)
  have ascending' : (ofBytes right).Ascending := ofBytes_ascending (by omega)
  have bound (start : Offset)
      (member : start ∈ (ofBytes left).starts ∨ start ∈ (ofBytes right).starts) :
      start.toNat < 2 ^ 32 - 1 := by
    rcases member with member | member
    · exact Nat.lt_of_le_of_lt (toNat_le_length_of_mem_starts (by omega) member) small
    · exact Nat.lt_of_le_of_lt (toNat_le_length_of_mem_starts (by omega) member) small'
  constructor
  · refine ⟨fun same offset _ => by rw [same], fun same => ?_⟩
    exact ascending.eq_of_resolve_eq ascending' bound fun start member =>
      same start (bound start member)
  · refine ⟨fun same line => by rw [same], fun same => ?_⟩
    have few : (ofBytes left).lineCount ≤ left.length + 1 := lineCount_le (by omega)
    have few' : (ofBytes right).lineCount ≤ right.length + 1 := lineCount_le (by omega)
    exact eq_of_lineStart?_eq (by omega) (by omega) same

/-- Two files whose lines end in different ways, and a longer one whose table begins like theirs. -/
theorem eq_iff_answers_eq_of_beginning :
    let left : Bytes := [0x61, 0x0D, 0x0A]
    let right : Bytes := [0x62, 0x63, 0x0A]
    let longer : Bytes := [0x61, 0x0D, 0x0A, 0x62, 0x0A]
    left.length < 2 ^ 32 - 1 ∧ right.length < 2 ^ 32 - 1 ∧ longer.length < 2 ^ 32 - 1 ∧
      (∀ offset : Offset, offset.toNat < 2 ^ 32 - 1 →
        (ofBytes left).resolve offset = (ofBytes right).resolve offset) ∧
      (∀ line : UInt32, (ofBytes left).lineStart? line = (ofBytes right).lineStart? line) ∧
      ¬ (∀ offset : Offset, offset.toNat < 2 ^ 32 - 1 →
        (ofBytes left).resolve offset = (ofBytes longer).resolve offset) ∧
      ¬ ∀ line : UInt32, (ofBytes left).lineStart? line = (ofBytes longer).lineStart? line := by
  intro left right longer
  have small : left.length < 2 ^ 32 - 1 := by decide
  have small' : right.length < 2 ^ 32 - 1 := by decide
  have small'' : longer.length < 2 ^ 32 - 1 := by decide
  have same : ofBytes left = ofBytes right := by decide
  have different : ofBytes left ≠ ofBytes longer := by decide
  rcases eq_iff_answers_eq left right small small' with ⟨positions, lines⟩
  rcases eq_iff_answers_eq left longer small small'' with ⟨positions', lines'⟩
  exact ⟨small, small', small'', positions.mp same, lines.mp same, mt positions'.mpr different,
    mt lines'.mpr different⟩

end SourceDiagnostics.LineTable
