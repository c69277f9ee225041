/-!
Positions in a text file: a line and a column, both counted from one. A position resolver may
answer with a zero, so the type admits it; what is reported goes through `Position.clamped`.
-/

namespace SourceDiagnostics

abbrev Offset := UInt32

structure Position where
  line : UInt32
  column : UInt32
  deriving DecidableEq, Repr, Inhabited

namespace Position

def clamped (line column : UInt32) : Position :=
  ⟨max line 1, max column 1⟩

theorem one_le_max (coordinate : UInt32) : 1 ≤ max coordinate 1 := by
  change 1 ≤ if coordinate ≤ 1 then 1 else coordinate
  split
  · exact UInt32.le_refl 1
  · next above => exact (UInt32.le_total coordinate 1).resolve_left above

theorem toNat_max_one (coordinate : UInt32) :
    (max coordinate 1).toNat = max coordinate.toNat 1 := by
  change (if coordinate ≤ 1 then 1 else coordinate).toNat = _
  split
  · next below =>
    have bound := UInt32.le_iff_toNat_le.mp below
    exact (Nat.max_eq_right bound).symm
  · next above =>
    have bound := fun below => above (UInt32.le_iff_toNat_le.mpr below)
    exact (Nat.max_eq_left (Nat.le_of_not_le bound)).symm

theorem one_le_line_clamped (line column : UInt32) : 1 ≤ (clamped line column).line :=
  one_le_max line

theorem one_le_column_clamped (line column : UInt32) : 1 ≤ (clamped line column).column :=
  one_le_max column

def lineStart (line : UInt32) : Position :=
  clamped line 1

instance : Ord Position where
  compare left right := (compare left.line right.line).then (compare left.column right.column)

def sort (positions : List Position) : List Position :=
  positions.mergeSort fun left right => (compare left right).isLE

instance : ToString Position where
  toString position := toString position.line.toNat ++ ":" ++ toString position.column.toNat

example : clamped 0 0 = ⟨1, 1⟩ := by decide
example : compare (clamped 2 1) (clamped 1 80) = .gt := by decide

end Position

abbrev Resolver := Offset → Position

end SourceDiagnostics
