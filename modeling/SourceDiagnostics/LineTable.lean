import SourceDiagnostics.Position
import SourceDiagnostics.Text.Utf8

/-!
Line tables. A line ends after a line feed, after a carriage return with the line feed that
follows it, and after a lone carriage return. A table holds the offsets just after these breaks;
the first line starts at zero and needs no entry, so every offset lies on some line and resolving
cannot fail. Columns count bytes.
-/

namespace SourceDiagnostics

structure LineTable where
  breakEnds : List Offset
  deriving DecidableEq, Repr, Inhabited

namespace LineTable

def lineFeed : UInt8 := 0x0A

def carriageReturn : UInt8 := 0x0D

def breakEndsFrom (position : Nat) : Bytes → List Nat
  | [] => []
  | byte :: rest =>
      if byte = lineFeed ∨ byte = carriageReturn ∧ rest.head? ≠ some lineFeed then
        (position + 1) :: breakEndsFrom (position + 1) rest
      else
        breakEndsFrom (position + 1) rest

/-- The scan as a loop, with the ends found so far in reverse: a file may have more lines than a
recursion should be deep. -/
def scanBreaks (position : Nat) (found : List Nat) : Bytes → List Nat
  | [] => found.reverse
  | byte :: rest =>
      if byte = lineFeed ∨ byte = carriageReturn ∧ rest.head? ≠ some lineFeed then
        scanBreaks (position + 1) ((position + 1) :: found) rest
      else
        scanBreaks (position + 1) found rest

theorem scanBreaks_eq (position : Nat) (found : List Nat) (bytes : Bytes) :
    scanBreaks position found bytes = found.reverse ++ breakEndsFrom position bytes := by
  induction bytes generalizing position found with
  | nil => simp [scanBreaks, breakEndsFrom]
  | cons byte rest induction =>
      rw [scanBreaks, breakEndsFrom]
      split <;> simp [induction]

/-- The table of a file's contents. An offset too large to be one is held at the largest. -/
def ofBytes (bytes : Bytes) : LineTable :=
  ⟨(scanBreaks 0 [] bytes).map UInt32.ofNatClamp⟩

theorem breakEnds_ofBytes (bytes : Bytes) :
    (ofBytes bytes).breakEnds = (breakEndsFrom 0 bytes).map UInt32.ofNatClamp := by
  simp [ofBytes, scanBreaks_eq]

def starts (table : LineTable) : List Offset :=
  0 :: table.breakEnds

def lineCount (table : LineTable) : Nat :=
  table.starts.length

def lineStart? (table : LineTable) (line : UInt32) : Option Offset :=
  if line = 0 then none else table.starts[line.toNat - 1]?

/-- The position of an offset: its line is the last one that starts at or before it. Offsets past
the end of the file are on its last line. -/
def resolve (table : LineTable) : Resolver := fun offset =>
  let passed := table.breakEnds.takeWhile (· ≤ offset)
  Position.clamped (UInt32.ofNatClamp (passed.length + 1)) (offset - passed.getLastD 0 + 1)

/-! Of `a\r\nb\rc` the second line starts at 3 and the third at 5; the line feed at 2 is still on
the first line. -/

example : (ofBytes [0x61, 0x0D, 0x0A, 0x62, 0x0D, 0x63]).starts = [0, 3, 5] := by decide
example : (ofBytes [0x61, 0x0D, 0x0A, 0x62, 0x0D, 0x63]).resolve 2 = ⟨1, 3⟩ := by decide
example : (ofBytes [0x61, 0x0A]).resolve 20 = ⟨2, 19⟩ := by decide
example : (ofBytes [0x61, 0x0A]).lineStart? 0 = none := by decide

end LineTable

end SourceDiagnostics
