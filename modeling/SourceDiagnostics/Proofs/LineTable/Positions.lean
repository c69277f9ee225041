import SourceDiagnostics.Proofs.LineTable.Breaks

/-!
Offsets against positions. Each offset is found again from its position, by the start of the line
and the column (`Fits.start_add_column`); each line is found again from its start
(`Ascending.resolve_start`); and offsets are in the order of their positions
(`Ascending.resolve_lt_iff`). This holds of all offsets whose positions fit; only the last offset
of all can have one that does not.
-/

namespace SourceDiagnostics.LineTable

theorem Fits.lineStart?_line {table : LineTable} {offset : Offset} (fits : table.Fits offset) :
    table.lineStart? (table.resolve offset).line = some (table.lineStartOf offset) := by
  rw [lineStart?_eq_some_iff, fits.toNat_line]
  exact ⟨Nat.le_add_left 1 _, table.getElem?_starts_length_passed offset⟩

theorem Fits.start_add_column {table : LineTable} {offset : Offset} (fits : table.Fits offset) :
    (table.lineStartOf offset).toNat + (table.resolve offset).column.toNat - 1 =
      offset.toNat := by
  have start := UInt32.le_iff_toNat_le.mp (table.lineStartOf_le offset)
  rw [fits.toNat_column]
  omega

theorem Fits.eq_of_resolve_eq {table : LineTable} {left right : Offset} (fits : table.Fits left)
    (fits' : table.Fits right) (same : table.resolve left = table.resolve right) :
    left = right := by
  have line := fits.lineStart?_line
  rw [same, fits'.lineStart?_line] at line
  rw [← UInt32.toNat_inj, ← fits.start_add_column, ← fits'.start_add_column, same,
    Option.some.inj line]

namespace Ascending

variable {table : LineTable} (ascending : table.Ascending)

include ascending

theorem exists_following {offset : Offset} (fits : table.Fits offset) {following : UInt32}
    (same : following.toNat = (table.resolve offset).line.toNat + 1)
    (among : following.toNat ≤ table.lineCount) :
    ∃ next, table.lineStart? following = some next ∧ offset < next := by
  have present : (table.lineStart? following).isSome :=
    (table.lineStart?_isSome_iff following).mpr ⟨by omega, among⟩
  rcases Option.isSome_iff_exists.mp present with ⟨next, found⟩
  refine ⟨next, found, UInt32.not_le.mp fun reached => ?_⟩
  have numbered := ((table.lineStart?_eq_some_iff ..).mp found).right
  have line := (ascending.start_le_iff numbered offset).mp reached
  rw [fits.toNat_line] at same
  omega

theorem resolve_lt_iff {left right : Offset} (fits : table.Fits left) (fits' : table.Fits right) :
    left < right ↔
      (table.resolve left).line < (table.resolve right).line ∨
        (table.resolve left).line = (table.resolve right).line ∧
          (table.resolve left).column < (table.resolve right).column := by
  refine ⟨fun lt => ascending.resolve_lt lt fits', fun before => UInt32.not_le.mp fun le => ?_⟩
  rcases UInt32.lt_or_eq_of_le le with gt | rfl
  · have after := ascending.resolve_lt gt fits
    simp only [UInt32.lt_iff_toNat_lt, ← UInt32.toNat_inj] at before after
    omega
  · simp [UInt32.lt_irrefl] at before

theorem resolve_start {line : UInt32} {start : Offset}
    (found : table.lineStart? line = some start) : table.resolve start = ⟨line, 1⟩ := by
  rcases (table.lineStart?_eq_some_iff line start).mp found with ⟨positive, numbered⟩
  have passed := ascending.length_passed_of_start numbered
  have begun := ascending.lineStartOf_of_start numbered
  have last : line.toNat < 2 ^ 32 := line.toNat_lt
  have fits : table.Fits start := by
    constructor
    · omega
    · rw [begun]
      omega
  have number : (table.resolve start).line.toNat = line.toNat := by
    rw [fits.toNat_line]
    omega
  have first : (table.resolve start).column.toNat = (1 : UInt32).toNat := by
    rw [fits.toNat_column, begun, Nat.sub_self]
    rfl
  rw [← UInt32.toNat_inj.mp number, ← UInt32.toNat_inj.mp first]

end Ascending

/-- An offset with a column that can be written down has a line that can be, unless it is the last
offset of all and there is a line for it that has no number. -/
theorem fits_or_last {bytes : Bytes} (small : bytes.length < 2 ^ 32) {offset : Offset}
    (column : offset.toNat - ((ofBytes bytes).lineStartOf offset).toNat + 1 < 2 ^ 32) :
    (ofBytes bytes).Fits offset ∨
      offset.toNat = 2 ^ 32 - 1 ∧ (ofBytes bytes).lineCount = 2 ^ 32 := by
  by_cases line : ((ofBytes bytes).passed offset).length + 1 < 2 ^ 32
  · exact .inl ⟨line, column⟩
  · have few := (ofBytes_ascending small).length_passed_le offset
    have bound := offset.toNat_lt
    have all := lineCount_of_length_le small offset (by omega)
    exact .inr ⟨by omega, by omega⟩

/-- Offsets and positions correspond one to one, as far as positions can be written down. From its
position an offset is found again, by the start of its line and its column, and the next line is
past it; offsets are in the order of their positions, and no two of them share one; the lines that
have a start are those from the first to the last, and at the start of a line its first column is
found. Of the offsets whose column can be written down there is at most one whose line cannot be:
the last offset of all, in a file with more lines than there are numbers for them. -/
theorem offsets_correspond_to_positions (bytes : Bytes) (small : bytes.length < 2 ^ 32) :
    let table := ofBytes bytes
    (∀ offset : Offset, offset.toNat - (table.lineStartOf offset).toNat + 1 < 2 ^ 32 →
      table.Fits offset ∨ offset.toNat = 2 ^ 32 - 1 ∧ table.lineCount = 2 ^ 32) ∧
    (∀ offset : Offset, table.Fits offset →
      let position := table.resolve offset
      (1 ≤ position.line.toNat ∧ position.line.toNat ≤ table.lineCount) ∧
      (∃ start, table.lineStart? position.line = some start ∧
        start.toNat + position.column.toNat - 1 = offset.toNat) ∧
      ∀ following : UInt32, following.toNat = position.line.toNat + 1 →
        following.toNat ≤ table.lineCount →
          ∃ next, table.lineStart? following = some next ∧ offset < next) ∧
    (∀ left right : Offset, table.Fits left → table.Fits right →
      (left < right ↔
        (table.resolve left).line < (table.resolve right).line ∨
          (table.resolve left).line = (table.resolve right).line ∧
            (table.resolve left).column < (table.resolve right).column) ∧
      (table.resolve left = table.resolve right → left = right)) ∧
    ∀ line : UInt32,
      ((table.lineStart? line).isSome ↔ 1 ≤ line.toNat ∧ line.toNat ≤ table.lineCount) ∧
      ∀ start, table.lineStart? line = some start → table.resolve start = ⟨line, 1⟩ := by
  intro table
  have ascending : table.Ascending := ofBytes_ascending small
  refine ⟨fun offset => fits_or_last small, ?_, ?_, ?_⟩
  · intro offset fits position
    have found : table.lineStart? position.line = some (table.lineStartOf offset) :=
      fits.lineStart?_line
    have present : (table.lineStart? position.line).isSome := by
      rw [found]
      rfl
    refine ⟨(table.lineStart?_isSome_iff position.line).mp present, ?_, ?_⟩
    · exact ⟨_, found, fits.start_add_column⟩
    · exact fun following => ascending.exists_following fits
  · intro left right fits fits'
    exact ⟨ascending.resolve_lt_iff fits fits', fits.eq_of_resolve_eq fits'⟩
  · exact fun line => ⟨table.lineStart?_isSome_iff line, fun start => ascending.resolve_start⟩

/-- An offset on the second byte of a line break, and one past the end of the file. -/
theorem offsets_correspond_to_positions_of_pair :
    let bytes : Bytes := [0x61, 0x0D, 0x0A, 0x62]
    let table := ofBytes bytes
    bytes.length < 2 ^ 32 ∧ table.Fits 2 ∧ table.Fits 20 ∧
      (∃ start, table.lineStart? (table.resolve 2).line = some start ∧
        start.toNat + (table.resolve 2).column.toNat - 1 = (2 : Offset).toNat) ∧
      ((2 : Offset) < 20 ↔
        (table.resolve 2).line < (table.resolve 20).line ∨
          (table.resolve 2).line = (table.resolve 20).line ∧
            (table.resolve 2).column < (table.resolve 20).column) ∧
      table.lineStart? 2 = some 3 ∧ table.resolve 3 = ⟨2, 1⟩ := by
  intro bytes table
  have small : bytes.length < 2 ^ 32 := by decide
  have fits : table.Fits 2 := ⟨by decide, by decide⟩
  have fits' : table.Fits 20 := ⟨by decide, by decide⟩
  have start : table.lineStart? 2 = some 3 := by decide
  rcases offsets_correspond_to_positions bytes small with ⟨-, found, ordered, lines⟩
  exact ⟨small, fits, fits', (found 2 fits).right.left, (ordered 2 20 fits fits').left, start,
    (lines 2).right 3 start⟩

/-! The exception is there to be made. -/

/-- In the largest file of line feeds the last offset and the one before it share a position, though
both are in the first column of their lines. So the position does not tell which of them is first,
and from it the last offset is not found again. -/
theorem resolve_last_eq_resolve_previous :
    let bytes := List.replicate (2 ^ 32 - 1) lineFeed
    let table := ofBytes bytes
    let previous : Offset := 4294967294
    let last : Offset := 4294967295
    bytes.length < 2 ^ 32 ∧
      previous.toNat - (table.lineStartOf previous).toNat + 1 < 2 ^ 32 ∧
      last.toNat - (table.lineStartOf last).toNat + 1 < 2 ^ 32 ∧
      previous < last ∧ table.resolve previous = table.resolve last ∧
      ¬ ((table.resolve previous).line < (table.resolve last).line ∨
        (table.resolve previous).line = (table.resolve last).line ∧
          (table.resolve previous).column < (table.resolve last).column) ∧
      ∀ start, table.lineStart? (table.resolve last).line = some start →
        start.toNat + (table.resolve last).column.toNat - 1 ≠ last.toNat := by
  intro bytes table previous last
  have within : previous.toNat ≤ 2 ^ 32 - 1 := by decide
  have within' : last.toNat ≤ 2 ^ 32 - 1 := by decide
  have small : bytes.length < 2 ^ 32 := by
    rw [show bytes.length = 2 ^ 32 - 1 from List.length_replicate]
    decide
  have start : table.lineStartOf previous = previous :=
    lineStartOf_replicate_lineFeed (by decide) within
  have start' : table.lineStartOf last = last := lineStartOf_replicate_lineFeed (by decide) within'
  have passed : (table.passed previous).length = previous.toNat :=
    length_passed_replicate_lineFeed (by decide) within
  have fits : table.Fits previous := by
    constructor
    · rw [passed]
      decide
    · rw [start]
      decide
  have found := resolve_replicate_lineFeed (by decide) within
  have found' := resolve_replicate_lineFeed (by decide) within'
  have shared : table.resolve previous = table.resolve last := by
    rw [Position.mk.injEq, ← UInt32.toNat_inj, ← UInt32.toNat_inj, found'.left, found'.right]
    exact ⟨found.left.trans (by decide), found.right⟩
  refine ⟨small, fits.column, ?_, by decide, shared, ?_, ?_⟩
  · rw [start']
    decide
  · rw [shared]
    simp [UInt32.lt_irrefl]
  · intro first numbered
    rw [← shared, fits.lineStart?_line, start] at numbered
    rw [← Option.some.inj numbered, found'.right]
    decide

end SourceDiagnostics.LineTable
