import SourceDiagnostics.Path

/-!
What a joined path means. A path is split at its slashes, and joining adds slashes and pieces but
never merges two pieces into one; so the names of a joined path are those of its base, followed by
the names of its tail (`components_join`). There a `.` at the start of the tail is no name any more,
since it does not come first. How base and tail are spelled makes no difference to what they mean
together (`join_congr`).
-/

namespace SourceDiagnostics.Path

/-- The names of a path as they are behind another path: a `.` is none of them, wherever it
stands. -/
def bareNames (path : Path) : List Bytes :=
  path.pieces.filter isName

example : (ofString "./a/.//b").bareNames = (ofString "a/b/").bareNames := by decide
example : ¬ ofString "./a/.//b" ≈ ofString "a/b/" := by decide

theorem pieces_append_slash (front back : Bytes) :
    pieces ⟨front ++ slash :: back⟩ = pieces ⟨front⟩ ++ pieces ⟨back⟩ :=
  List.splitOn_append_cons_self front back

theorem pieces_of_slash_not_mem {path : Path} (whole : slash ∉ path.bytes) :
    path.pieces = [path.bytes] :=
  List.splitOn_eq_singleton whole

theorem names_of_pieces_append {path base : Path} {later : List Bytes}
    (pieces : path.pieces = base.pieces ++ later) :
    path.components.names = base.components.names ++ later.filter isName := by
  cases first : base.pieces with
  | nil => exact absurd first (List.splitOn_ne_nil slash base.bytes)
  | cons piece rest =>
      rw [first] at pieces
      rw [names_of_pieces pieces, names_of_pieces first]
      split
      next => simp
      next => exact List.filter_append (piece :: rest) later

theorem isAbsolute_join {base tail : Path} (nonempty : base.bytes ≠ [])
    (relative : tail.isAbsolute = false) : (base.join tail).isAbsolute = base.isAbsolute := by
  rcases List.exists_cons_of_ne_nil nonempty with ⟨byte, rest, bytes⟩
  rw [join, if_neg (Bool.eq_false_iff.mp relative)]
  split <;> simp [isAbsolute, bytes]

theorem names_join {base tail : Path} (nonempty : base.bytes ≠ [])
    (relative : tail.isAbsolute = false) :
    (base.join tail).components.names = base.components.names ++ tail.bareNames := by
  rw [join, if_neg (Bool.eq_false_iff.mp relative)]
  split
  next ended =>
      have last : base.bytes.getLast? = some slash := by simpa [nonempty] using ended
      rcases List.getLast?_eq_some_iff.mp last with ⟨front, bytes⟩
      -- The slash at the end of the base leaves an empty piece behind it, which is no name.
      have before : base.pieces = pieces ⟨front⟩ ++ [[]] := by
        rw [pieces, bytes]
        exact pieces_append_slash front []
      have after : pieces ⟨base.bytes ++ tail.bytes⟩ = pieces ⟨front⟩ ++ tail.pieces := by
        rw [bytes, List.append_assoc]
        exact pieces_append_slash front tail.bytes
      rw [names_of_pieces_append before, names_of_pieces_append after, bareNames]
      simp [isName]
  next => exact names_of_pieces_append (pieces_append_slash base.bytes tail.bytes)

theorem components_join {base tail : Path} (nonempty : base.bytes ≠ [])
    (relative : tail.isAbsolute = false) :
    (base.join tail).components =
      ⟨base.components.absolute, base.components.names ++ tail.bareNames⟩ := by
  rw [← names_join nonempty relative]
  exact congrArg (Components.mk · _) (isAbsolute_join nonempty relative)

theorem names_ne_nil {path : Path} (nonempty : path.bytes ≠ [])
    (relative : path.isAbsolute = false) : path.components.names ≠ [] := by
  rcases List.exists_cons_of_ne_nil nonempty with ⟨byte, rest, bytes⟩
  have begins : byte ≠ slash := by simpa [isAbsolute, bytes] using relative
  cases pieces : List.splitOn slash rest with
  | nil => exact absurd pieces (List.splitOn_ne_nil slash rest)
  | cons first later =>
      have split : path.pieces = (byte :: first) :: later := by
        rw [Path.pieces, bytes]
        simp [List.splitOn_cons_eq_if_modifyHead, begins, pieces]
      rw [names_of_pieces split]
      by_cases still : byte :: first = here <;> simp [isName, still]

theorem bytes_ne_nil_of_equiv {path other : Path} (equal : path ≈ other)
    (nonempty : path.bytes ≠ []) : other.bytes ≠ [] := by
  intro empty
  have meaning : other.components = ⟨false, []⟩ := by
    rcases other with ⟨bytes⟩
    subst empty
    rfl
  rw [equiv_iff, meaning] at equal
  exact names_ne_nil nonempty (congrArg Components.absolute equal)
    (congrArg Components.names equal)

theorem join_equiv_join_iff {base other left right : Path} (equal : base ≈ other)
    (nonempty : base.bytes ≠ []) (relative : left.isAbsolute = false)
    (relative' : right.isAbsolute = false) :
    base.join left ≈ other.join right ↔ left.bareNames = right.bareNames := by
  have nonempty' := bytes_ne_nil_of_equiv equal nonempty
  rw [equiv_iff] at equal ⊢
  rw [components_join nonempty relative, components_join nonempty' relative', equal]
  simp

/-! Equal paths joined to equal bases. -/

theorem isAbsolute_eq_of_equiv {path other : Path} (equal : path ≈ other) :
    path.isAbsolute = other.isAbsolute :=
  congrArg Components.absolute equal

theorem bareNames_eq_filter (path : Path) :
    path.bareNames = path.components.names.filter isName := by
  cases pieces : path.pieces with
  | nil => exact absurd pieces (List.splitOn_ne_nil slash path.bytes)
  | cons first later =>
      have nameless : isName here = false := by decide
      rw [bareNames, names_of_pieces pieces, pieces]
      split
      next still => simp [still, nameless]
      next => simp

theorem bareNames_eq_of_equiv {path other : Path} (equal : path ≈ other) :
    path.bareNames = other.bareNames := by
  rw [bareNames_eq_filter, bareNames_eq_filter, equiv_iff.mp equal]

theorem join_of_isAbsolute (base : Path) {tail : Path} (absolute : tail.isAbsolute = true) :
    base.join tail = tail :=
  if_pos absolute

theorem empty_join {base : Path} (empty : base.bytes = []) (tail : Path) :
    base.join tail = tail := by
  rw [join, empty]
  simp

/-- What a joined path means depends only on what its parts mean. -/
theorem join_congr {base other left right : Path} (bases : base ≈ other) (tails : left ≈ right) :
    base.join left ≈ other.join right := by
  have starts := isAbsolute_eq_of_equiv tails
  cases absolute : left.isAbsolute with
  | true =>
      rw [join_of_isAbsolute base absolute, join_of_isAbsolute other (starts ▸ absolute)]
      exact tails
  | false =>
      by_cases empty : base.bytes = []
      · have empty' : other.bytes = [] := Decidable.byContradiction fun nonempty =>
          bytes_ne_nil_of_equiv (Setoid.symm bases) nonempty empty
        rw [empty_join empty, empty_join empty']
        exact tails
      · exact (join_equiv_join_iff bases empty absolute (starts ▸ absolute)).mpr
          (bareNames_eq_of_equiv tails)

end SourceDiagnostics.Path
