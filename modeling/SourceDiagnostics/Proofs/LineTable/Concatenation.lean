import Mathlib.Data.List.Basic
import SourceDiagnostics.Proofs.LineTable.Cuts

/-!
Bytes put after others. The table of the whole is made of the tables of its parts: the starts of
the first part, and the later starts of the second one moved by the length of the first
(`breakEndsFrom_append`, `breakEndsFrom_add`). There is one exception. If the second part begins
with the line feed of a carriage return that ends the first part, then the start after that
carriage return goes (`breakEndsFrom_append_of_partsPair`). Up to its own last byte the first part
is resolved as before, in the exceptional case too: the start that goes is after all its bytes
(`takeWhile_breakEndsFrom_append`).
-/

namespace SourceDiagnostics.LineTable

instance (front back : Bytes) : Decidable (PartsPair front back) :=
  inferInstanceAs (Decidable (_ ∧ _))

theorem breakEndsFrom_add (position distance : Nat) (bytes : Bytes) :
    breakEndsFrom (position + distance) bytes =
      (breakEndsFrom position bytes).map (· + distance) := by
  induction bytes generalizing position with
  | nil => rfl
  | cons byte rest induction =>
      have moved : position + distance + 1 = position + 1 + distance := by omega
      rw [breakEndsFrom, breakEndsFrom, moved, induction]
      split <;> simp

theorem breakEndsFrom_carriageReturn (position : Nat) :
    breakEndsFrom position [carriageReturn] = [position + 1] :=
  rfl

theorem not_partsPair_carriageReturn_cons (front back : Bytes) :
    ¬ PartsPair front (carriageReturn :: back) := by
  simp [PartsPair, carriageReturn, lineFeed]

/-- If a pair is parted, its first half is taken to be a break, which the whole does not have. -/
theorem breakEndsFrom_append_of_partsPair (position : Nat) {front back : Bytes}
    (parts : PartsPair front back) :
    breakEndsFrom position (front ++ back) =
      (breakEndsFrom position front).dropLast ++
        breakEndsFrom (position + front.length) back := by
  obtain ⟨last, first⟩ := parts
  obtain ⟨before, rfl⟩ := List.getLast?_eq_some_iff.mp last
  have half := breakEndsFrom_append position (not_partsPair_carriageReturn_cons before [])
  have pair := breakEndsFrom_append position (not_partsPair_carriageReturn_cons before back)
  have joined : breakEndsFrom (position + before.length) (carriageReturn :: back) =
      breakEndsFrom (position + before.length + 1) back := by
    rw [breakEndsFrom, if_neg]
    rintro (no | no)
    · exact absurd no (by decide)
    · exact no.right first
  rw [List.append_assoc, List.singleton_append, pair, joined, half, breakEndsFrom_carriageReturn,
    List.dropLast_concat, List.length_append, List.length_singleton, Nat.add_assoc]

def keptBreakEnds (front back : Bytes) : List Nat :=
  if PartsPair front back then (breakEndsFrom 0 front).dropLast else breakEndsFrom 0 front

theorem breakEndsFrom_zero_append (front back : Bytes) :
    breakEndsFrom 0 (front ++ back) =
      keptBreakEnds front back ++ (breakEndsFrom 0 back).map (· + front.length) := by
  rw [← breakEndsFrom_add, keptBreakEnds]
  split
  next parts => exact breakEndsFrom_append_of_partsPair 0 parts
  next whole => exact breakEndsFrom_append 0 whole

theorem breakEndsFrom_ne_nil_of_partsPair {front back : Bytes} (parts : PartsPair front back) :
    breakEndsFrom 0 front ≠ [] := by
  obtain ⟨before, rfl⟩ := List.getLast?_eq_some_iff.mp parts.left
  rw [breakEndsFrom_append 0 (not_partsPair_carriageReturn_cons before [])]
  exact List.append_ne_nil_of_right_ne_nil _ (List.cons_ne_nil _ _)

theorem length_keptBreakEnds (front back : Bytes) :
    (keptBreakEnds front back).length + (if PartsPair front back then 1 else 0) =
      (breakEndsFrom 0 front).length := by
  rw [keptBreakEnds]
  split
  next parts =>
    rw [List.length_dropLast]
    exact Nat.sub_add_cancel
      (List.length_pos_iff.mpr (breakEndsFrom_ne_nil_of_partsPair parts))
  next => rfl

/-! What is up to an offset. -/

theorem takeWhile_breakEndsFrom_append {offset position : Nat} (front back : Bytes)
    (within : offset < position + front.length) :
    (breakEndsFrom position (front ++ back)).takeWhile (· ≤ offset) =
      (breakEndsFrom position front).takeWhile (· ≤ offset) := by
  induction front generalizing position with
  | nil =>
      have before : offset ≤ position := Nat.le_of_lt within
      rw [takeWhile_breakEndsFrom_of_le before, takeWhile_breakEndsFrom_of_le before]
  | cons byte rest induction =>
      rcases Nat.lt_or_ge position offset with inside | before
      · -- A second byte of the first part is what both scans look ahead to.
        have more : rest ≠ [] := by
          rintro rfl
          exact absurd within (Nat.not_lt.mpr inside)
        have later := @induction (position + 1) (by
          rw [List.length_cons] at within
          omega)
        rw [List.cons_append, breakEndsFrom, breakEndsFrom, List.head?_append_of_ne_nil _ more]
        by_cases ends : byte = lineFeed ∨ byte = carriageReturn ∧ rest.head? ≠ some lineFeed
        · rw [if_pos ends, if_pos ends, List.takeWhile_cons, List.takeWhile_cons, later]
        · rw [if_neg ends, if_neg ends, later]
      · rw [takeWhile_breakEndsFrom_of_le before, takeWhile_breakEndsFrom_of_le before]

theorem toNat_starts {bytes : Bytes} (small : bytes.length < 2 ^ 32) :
    (ofBytes bytes).starts.map UInt32.toNat = 0 :: breakEndsFrom 0 bytes :=
  congrArg (0 :: ·) (toNat_breakEnds small)

theorem resolve_append {front back : Bytes} (small : front.length + back.length < 2 ^ 32)
    {offset : Offset} (within : offset.toNat < front.length) :
    (ofBytes (front ++ back)).resolve offset = (ofBytes front).resolve offset := by
  have passed : (ofBytes (front ++ back)).passed offset = (ofBytes front).passed offset := by
    apply (List.map_inj_right fun _ _ => UInt32.toNat_inj.mp).mp
    rw [toNat_passed (List.length_append ▸ small), toNat_passed (by omega)]
    exact takeWhile_breakEndsFrom_append front back (by omega)
  refine resolve_eq_resolve (congrArg List.length passed) ?_
  rw [lineStartOf, lineStartOf, passed]

/-- The table of some bytes followed by others is the table of the first, followed by the later
entries of the table of the second moved by the length of the first. If the cut parts a carriage
return from its line feed, then the last entry of the first table goes. So the lines of the parts
are one more than those of the whole, or two more if a pair is parted, and an offset within the
first part has the same position in the whole. -/
theorem table_of_concatenation (front back : Bytes) (small : front.length + back.length < 2 ^ 32) :
    (ofBytes (front ++ back)).starts.map UInt32.toNat =
        (if PartsPair front back then (ofBytes front).starts.dropLast
          else (ofBytes front).starts).map UInt32.toNat ++
        (ofBytes back).starts.tail.map (fun start => start.toNat + front.length) ∧
      (ofBytes (front ++ back)).lineCount + (if PartsPair front back then 2 else 1) =
        (ofBytes front).lineCount + (ofBytes back).lineCount ∧
      ∀ offset : Offset, offset.toNat < front.length →
        (ofBytes (front ++ back)).resolve offset = (ofBytes front).resolve offset := by
  have frontSmall : front.length < 2 ^ 32 := by omega
  have backSmall : back.length < 2 ^ 32 := by omega
  have kept : (if PartsPair front back then (ofBytes front).starts.dropLast
      else (ofBytes front).starts).map UInt32.toNat = 0 :: keptBreakEnds front back := by
    rw [keptBreakEnds]
    split
    next parts =>
      rw [List.map_dropLast, toNat_starts frontSmall,
        List.dropLast_cons_of_ne_nil (breakEndsFrom_ne_nil_of_partsPair parts)]
    next => exact toNat_starts frontSmall
  have added : (ofBytes back).starts.tail.map (fun start => start.toNat + front.length) =
      (breakEndsFrom 0 back).map (· + front.length) := by
    rw [← toNat_breakEnds backSmall, List.map_map]
    rfl
  refine ⟨?_, ?_, fun offset within => resolve_append small within⟩
  · rw [toNat_starts (List.length_append ▸ small), breakEndsFrom_zero_append, kept, added,
      List.cons_append]
  · rw [lineCount_ofBytes, lineCount_ofBytes, lineCount_ofBytes, breakEndsFrom_zero_append,
      List.length_append, List.length_map, ← length_keptBreakEnds front back]
    split <;> omega

/-- The parts `a\r` and `\nb` make two lines, and the carriage return stays where it is. -/
theorem table_of_concatenation_of_parted_pair :
    (ofBytes [0x61, 0x0D, 0x0A, 0x62]).starts.map UInt32.toNat = [0, 3] ∧
      (ofBytes [0x61, 0x0D, 0x0A, 0x62]).lineCount + 2 =
        (ofBytes [0x61, 0x0D]).lineCount + (ofBytes [0x0A, 0x62]).lineCount ∧
      (ofBytes [0x61, 0x0D, 0x0A, 0x62]).resolve 1 = (ofBytes [0x61, 0x0D]).resolve 1 := by
  obtain ⟨entries, lines, kept⟩ :=
    table_of_concatenation [0x61, 0x0D] [0x0A, 0x62] (by decide)
  exact ⟨entries, lines, kept 1 (by decide)⟩

end SourceDiagnostics.LineTable
