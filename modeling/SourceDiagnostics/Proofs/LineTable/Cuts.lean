import SourceDiagnostics.Proofs.LineTable.Lines

/-!
Cutting a file in two. As long as a cut does not part a carriage return from its line feed, the
line breaks on both sides of it are those of the whole file (`breakEndsFrom_append`). So what is
found at an offset is settled by the bytes before it: it is the place that a reader of these bytes
has come to (`cursor`), whatever bytes follow.
-/

namespace SourceDiagnostics.LineTable

/-- A cut between some bytes and others parts a carriage return from its line feed. -/
def PartsPair (front back : Bytes) : Prop :=
  front.getLast? = some carriageReturn ∧ back.head? = some lineFeed

theorem not_partsPair_of_cons {byte : UInt8} {front back : Bytes}
    (whole : ¬ PartsPair (byte :: front) back) : ¬ PartsPair front back := by
  rintro ⟨last, first⟩
  refine whole ⟨?_, first⟩
  rw [List.getLast?_cons, last]
  rfl

theorem head?_append_iff {front back : Bytes} (whole : ¬ PartsPair (carriageReturn :: front) back) :
    (front ++ back).head? = some lineFeed ↔ front.head? = some lineFeed := by
  cases front with
  | nil => exact iff_of_false (fun first => whole ⟨rfl, first⟩) nofun
  | cons byte rest => rfl

theorem breakEndsFrom_append (position : Nat) {front back : Bytes}
    (whole : ¬ PartsPair front back) :
    breakEndsFrom position (front ++ back) =
      breakEndsFrom position front ++ breakEndsFrom (position + front.length) back := by
  induction front generalizing position with
  | nil => rfl
  | cons byte rest induction =>
      have later := induction (position + 1) (not_partsPair_of_cons whole)
      have ends : (byte = lineFeed ∨
          byte = carriageReturn ∧ (rest ++ back).head? ≠ some lineFeed) ↔
          (byte = lineFeed ∨ byte = carriageReturn ∧ rest.head? ≠ some lineFeed) := by
        refine or_congr_right (and_congr_right ?_)
        rintro rfl
        exact not_congr (head?_append_iff whole)
      have moved : position + (byte :: rest).length = position + 1 + rest.length := by
        rw [List.length_cons]
        omega
      rw [List.cons_append, breakEndsFrom, breakEndsFrom, later, moved]
      simp only [ends]
      split
      · rw [List.cons_append]
      · rfl

/-- Where a reader is after some bytes: how many lines are behind, and how many bytes of the line
under way. The reader starts from such a place. -/
def cursor (lines column : Nat) : Bytes → Nat × Nat
  | [] => (lines, column)
  | byte :: rest =>
      if byte = lineFeed ∨ byte = carriageReturn ∧ rest.head? ≠ some lineFeed then
        cursor (lines + 1) 0 rest
      else
        cursor lines (column + 1) rest

theorem cursor_lineFeed_cons (lines column : Nat) (rest : Bytes) :
    cursor lines column (lineFeed :: rest) = cursor (lines + 1) 0 rest :=
  if_pos (.inl rfl)

theorem cursor_eq (start lines column : Nat) (bytes : Bytes) :
    cursor lines column bytes =
      (lines + (breakEndsFrom (start + column) bytes).length,
        start + column + bytes.length -
          (breakEndsFrom (start + column) bytes).getLastD start) := by
  induction bytes generalizing start lines column with
  | nil => simp [cursor, breakEndsFrom]
  | cons byte rest induction =>
      rw [cursor, breakEndsFrom]
      split
      · rw [induction (start + column + 1), List.length_cons, List.getLastD_cons, List.length_cons]
        simp only [Nat.add_zero, Prod.mk.injEq]
        constructor
        · omega
        · congr 1
          omega
      · rw [induction start, ← Nat.add_assoc, List.length_cons]
        simp only [Prod.mk.injEq, true_and]
        congr 1
        omega

theorem lineCount_ofBytes (bytes : Bytes) :
    (ofBytes bytes).lineCount = (breakEndsFrom 0 bytes).length + 1 := by
  rw [lineCount, starts, breakEnds_ofBytes, List.length_cons, List.length_map]

theorem lineCount_eq_cursor (bytes : Bytes) :
    (ofBytes bytes).lineCount = (cursor 0 0 bytes).1 + 1 := by
  rw [cursor_eq 0, lineCount_ofBytes, Nat.zero_add]

theorem toNat_passed {bytes : Bytes} (small : bytes.length < 2 ^ 32) (offset : Offset) :
    ((ofBytes bytes).passed offset).map UInt32.toNat =
      (breakEndsFrom 0 bytes).takeWhile (· ≤ offset.toNat) := by
  rw [← toNat_breakEnds small, List.takeWhile_map, passed]
  simp only [UInt32.le_iff_toNat_le]
  rfl

theorem takeWhile_breakEndsFrom_of_le {offset position : Nat} (before : offset ≤ position)
    (bytes : Bytes) : (breakEndsFrom position bytes).takeWhile (· ≤ offset) = [] := by
  cases ends : breakEndsFrom position bytes with
  | nil => rfl
  | cons stop rest =>
      have bounds := bounds_of_mem_breakEndsFrom (ends ▸ List.mem_cons_self)
      exact List.takeWhile_cons_of_neg (by simpa using Nat.lt_of_le_of_lt before bounds.left)

section

variable {front back : Bytes} (whole : ¬ PartsPair front back)
  (small : (front ++ back).length < 2 ^ 32) {offset : Offset} (here : offset.toNat = front.length)

include whole small here

theorem toNat_passed_append :
    ((ofBytes (front ++ back)).passed offset).map UInt32.toNat = breakEndsFrom 0 front := by
  have before : ∀ stop ∈ breakEndsFrom 0 front, decide (stop ≤ front.length) = true := by
    intro stop member
    have bounds := bounds_of_mem_breakEndsFrom member
    exact decide_eq_true (by omega)
  rw [toNat_passed small, here, breakEndsFrom_append 0 whole,
    List.takeWhile_append_of_pos before,
    takeWhile_breakEndsFrom_of_le (Nat.le_of_eq (Nat.zero_add _).symm), List.append_nil]

/-- The place that a reader of the bytes before a cut is at. -/
theorem cursor_eq_passed :
    cursor 0 0 front =
      (((ofBytes (front ++ back)).passed offset).length,
        offset.toNat - ((ofBytes (front ++ back)).lineStartOf offset).toNat) := by
  have ends := toNat_passed_append whole small here
  have last : ((ofBytes (front ++ back)).lineStartOf offset).toNat =
      (breakEndsFrom 0 front).getLastD 0 := by
    rw [← ends, lineStartOf, List.getLastD_eq_getLast?, List.getLastD_eq_getLast?,
      List.getLast?_map]
    cases ((ofBytes (front ++ back)).passed offset).getLast? <;> rfl
  rw [cursor_eq 0, Nat.zero_add, Nat.zero_add, Nat.zero_add, last, here,
    ← List.length_map UInt32.toNat, ends]

end

theorem resolve_append_eq {front back front' back' : Bytes} (whole : ¬ PartsPair front back)
    (whole' : ¬ PartsPair front' back') (small : (front ++ back).length < 2 ^ 32)
    (small' : (front' ++ back').length < 2 ^ 32) {offset offset' : Offset}
    (here : offset.toNat = front.length) (here' : offset'.toNat = front'.length)
    (same : cursor 0 0 front = cursor 0 0 front') :
    (ofBytes (front ++ back)).resolve offset = (ofBytes (front' ++ back')).resolve offset' := by
  rw [cursor_eq_passed whole small here, cursor_eq_passed whole' small' here',
    Prod.mk.injEq] at same
  exact resolve_eq_resolve same.left same.right

end SourceDiagnostics.LineTable
