import SourceDiagnostics.Proofs.LineTable.Cuts

/-!
Line endings. A file reads the same whichever bytes its lines end with: writing each line break as
a line feed changes neither the number of lines nor the position of any byte. A reader that goes
through the bytes comes to the same places either way (`cursor_withLineFeeds`).
-/

namespace SourceDiagnostics.LineTable

def asLineFeed (byte : UInt8) : UInt8 :=
  if byte = carriageReturn then lineFeed else byte

/-- The bytes with every line break written as one line feed, from left to right. -/
def withLineFeeds : Bytes → Bytes
  | [] => []
  | [byte] => [asLineFeed byte]
  | first :: second :: rest =>
      if first = carriageReturn ∧ second = lineFeed then lineFeed :: withLineFeeds rest
      else asLineFeed first :: withLineFeeds (second :: rest)

/-- The offset of a byte among the bytes with line feeds: what is before it is written so. -/
def movedOffset (bytes : Bytes) (offset : Nat) : Nat :=
  (withLineFeeds (bytes.take offset)).length

def IsWithinPair (bytes : Bytes) (offset : Nat) : Prop :=
  1 ≤ offset ∧ bytes[offset - 1]? = some carriageReturn ∧ bytes[offset]? = some lineFeed

example : withLineFeeds [0x0D, 0x0D, 0x0A, 0x61, 0x0A, 0x0D] = [0x0A, 0x0A, 0x61, 0x0A, 0x0A] := by
  decide
example : movedOffset [0x0D, 0x0D, 0x0A, 0x61] 3 = 2 := by decide

theorem asLineFeed_ne (byte : UInt8) : asLineFeed byte ≠ carriageReturn := by
  rw [asLineFeed]
  split
  · decide
  · next other => exact other

theorem asLineFeed_eq_iff (byte : UInt8) :
    asLineFeed byte = lineFeed ↔ byte = lineFeed ∨ byte = carriageReturn := by
  rw [asLineFeed]
  split
  · next same => exact iff_of_true rfl (.inr same)
  · next other => exact (or_iff_left other).symm

theorem withLineFeeds_lineFeed_cons (rest : Bytes) :
    withLineFeeds (lineFeed :: rest) = lineFeed :: withLineFeeds rest := by
  cases rest with
  | nil => rfl
  | cons second rest => exact if_neg fun pair => absurd pair.left (by decide)

theorem withLineFeeds_cons (byte : UInt8) (rest : Bytes) :
    withLineFeeds (byte :: rest) =
      if byte = carriageReturn ∧ rest.head? = some lineFeed then withLineFeeds rest
      else asLineFeed byte :: withLineFeeds rest := by
  cases rest with
  | nil => exact (if_neg fun pair => nomatch pair.right).symm
  | cons second rest =>
      rw [withLineFeeds, List.head?_cons]
      simp only [Option.some.injEq]
      split
      · next pair => rw [pair.right, withLineFeeds_lineFeed_cons]
      · rfl

theorem length_withLineFeeds_le (bytes : Bytes) : (withLineFeeds bytes).length ≤ bytes.length := by
  induction bytes with
  | nil => exact Nat.le_refl 0
  | cons byte rest induction =>
      rw [withLineFeeds_cons]
      split
      · exact Nat.le_succ_of_le induction
      · exact Nat.succ_le_succ induction

theorem withLineFeeds_append {front back : Bytes} (whole : ¬ PartsPair front back) :
    withLineFeeds (front ++ back) = withLineFeeds front ++ withLineFeeds back := by
  induction front with
  | nil => rfl
  | cons byte rest induction =>
      have pair : (byte = carriageReturn ∧ (rest ++ back).head? = some lineFeed) ↔
          (byte = carriageReturn ∧ rest.head? = some lineFeed) := by
        refine and_congr_right ?_
        rintro rfl
        exact head?_append_iff whole
      rw [List.cons_append, withLineFeeds_cons, withLineFeeds_cons,
        induction (not_partsPair_of_cons whole)]
      simp only [pair]
      split
      · rfl
      · rw [List.cons_append]

theorem carriageReturn_not_mem_withLineFeeds (bytes : Bytes) :
    carriageReturn ∉ withLineFeeds bytes := by
  induction bytes with
  | nil => exact List.not_mem_nil
  | cons byte rest induction =>
      rw [withLineFeeds_cons]
      split
      · exact induction
      · exact List.not_mem_cons_of_ne_of_not_mem (asLineFeed_ne byte).symm induction

theorem not_partsPair_withLineFeeds (bytes back : Bytes) :
    ¬ PartsPair (withLineFeeds bytes) back := fun pair =>
  carriageReturn_not_mem_withLineFeeds bytes (List.mem_of_getLast? pair.left)

/-! A reader comes to the same place whichever way line breaks are written. -/

theorem cursor_withLineFeeds (lines column : Nat) (bytes : Bytes) :
    cursor lines column (withLineFeeds bytes) = cursor lines column bytes := by
  induction bytes generalizing lines column with
  | nil => rfl
  | cons byte rest induction =>
      rw [withLineFeeds_cons]
      split
      -- The carriage return of a pair: the line feed after it makes its column irrelevant.
      · next pair =>
          rcases pair with ⟨rfl, first⟩
          rcases List.head?_eq_some_iff.mp first with ⟨others, rfl⟩
          have passed : cursor lines column (carriageReturn :: lineFeed :: others) =
              cursor lines (column + 1) (lineFeed :: others) :=
            if_neg fun ends => ends.elim (by decide) fun unpaired => unpaired.right rfl
          rw [induction, passed, cursor_lineFeed_cons, cursor_lineFeed_cons]
      · next alone =>
          have ends : (asLineFeed byte = lineFeed ∨ asLineFeed byte = carriageReturn ∧
              (withLineFeeds rest).head? ≠ some lineFeed) ↔
              (byte = lineFeed ∨ byte = carriageReturn ∧ rest.head? ≠ some lineFeed) := by
            rw [asLineFeed_eq_iff, or_iff_left fun returned => asLineFeed_ne byte returned.left]
            exact or_congr_right (and_iff_left_of_imp fun same first => alone ⟨same, first⟩).symm
          rw [cursor, cursor]
          simp only [ends, induction]

theorem lineCount_withLineFeeds (bytes : Bytes) :
    (ofBytes (withLineFeeds bytes)).lineCount = (ofBytes bytes).lineCount := by
  rw [lineCount_eq_cursor, lineCount_eq_cursor, cursor_withLineFeeds]

theorem partsPair_take_drop_iff {bytes : Bytes} {offset : Nat} (within : offset ≤ bytes.length) :
    PartsPair (bytes.take offset) (bytes.drop offset) ↔ IsWithinPair bytes offset := by
  rw [PartsPair, IsWithinPair, List.head?_drop, List.getLast?_take]
  cases offset with
  | zero => simp
  | succ before =>
      have bound : before < bytes.length := within
      simp [List.getElem?_eq_getElem bound]

/-- Line endings move nothing. With every line break written as a line feed a file has as many
lines as before, and every offset that is not inside a pair, up to the end of the file, is found at
the position where it was: the bytes before it and the bytes after it are then before and after the
offset it has moved to. -/
theorem resolve_withLineFeeds (bytes : Bytes) (small : bytes.length < 2 ^ 32 - 1) :
    (ofBytes bytes).lineCount = (ofBytes (withLineFeeds bytes)).lineCount ∧
    ∀ offset : Offset, offset.toNat ≤ bytes.length → ¬ IsWithinPair bytes offset.toNat →
      ∃ moved : Offset, moved.toNat = movedOffset bytes offset.toNat ∧
        (withLineFeeds bytes).take moved.toNat = withLineFeeds (bytes.take offset.toNat) ∧
        (withLineFeeds bytes).drop moved.toNat = withLineFeeds (bytes.drop offset.toNat) ∧
        (ofBytes bytes).resolve offset = (ofBytes (withLineFeeds bytes)).resolve moved := by
  refine ⟨(lineCount_withLineFeeds bytes).symm, fun offset within outside => ?_⟩
  let front := bytes.take offset.toNat
  let back := bytes.drop offset.toNat
  have joined : front ++ back = bytes := List.take_append_drop offset.toNat bytes
  have whole : ¬ PartsPair front back := mt (partsPair_take_drop_iff within).mp outside
  have written : withLineFeeds bytes = withLineFeeds front ++ withLineFeeds back := by
    rw [← joined, withLineFeeds_append whole]
  have shorter := length_withLineFeeds_le bytes
  have here : offset.toNat = front.length := (List.length_take_of_le within).symm
  have there : (UInt32.ofNat (withLineFeeds front).length).toNat =
      (withLineFeeds front).length := by
    apply UInt32.toNat_ofNat_of_lt
    rw [written, List.length_append] at shorter
    rw [UInt32.size]
    omega
  refine ⟨_, there, ?_, ?_, ?_⟩
  · rw [there, written, List.take_left]
  · rw [there, written, List.drop_left]
  · have found := resolve_append_eq whole (not_partsPair_withLineFeeds front _)
      (by rw [joined]; omega) (by rw [← written]; omega) here there
      (cursor_withLineFeeds 0 0 front).symm
    rwa [joined, ← written] at found

/-- A carriage return before a pair, and one at the end of the file: the offset after the pair has
moved by one. -/
theorem resolve_withLineFeeds_of_mixed :
    let bytes : Bytes := [0x0D, 0x0D, 0x0A, 0x61, 0x0A, 0x0D]
    bytes.length < 2 ^ 32 - 1 ∧ (4 : Offset).toNat ≤ bytes.length ∧ ¬ IsWithinPair bytes 4 ∧
      (ofBytes bytes).lineCount = (ofBytes (withLineFeeds bytes)).lineCount ∧
      (ofBytes bytes).resolve 4 = (ofBytes (withLineFeeds bytes)).resolve 3 := by
  intro bytes
  have small : bytes.length < 2 ^ 32 - 1 := by decide
  have within : (4 : Offset).toNat ≤ bytes.length := by decide
  have outside : ¬ IsWithinPair bytes (4 : Offset).toNat := fun inside =>
    absurd inside.right.left (by decide)
  rcases resolve_withLineFeeds bytes small with ⟨lines, found⟩
  rcases found 4 within outside with ⟨moved, there, -, -, same⟩
  have three : moved = 3 := UInt32.toNat_inj.mp (there.trans (by decide))
  exact ⟨small, within, outside, lines, three ▸ same⟩

end SourceDiagnostics.LineTable
