import SourceDiagnostics.Files.Directory

/-!
Spellings of one place. Following a path through a directory tree takes notice of pieces that lead
nowhere: such a piece can turn a way that leads to a file into one that leads astray, as `f/` does
where `f` is a file. What it cannot do is lead somewhere else. So of all the spellings of a place,
those that lead anywhere lead to one and the same place, the one that the names alone lead to.
-/

namespace SourceDiagnostics

namespace Directory

variable {tree : Directory}

private theorem foldlM_follow_cons {start place : Place} {piece : Bytes} {rest : List Bytes} :
    (piece :: rest).foldlM tree.follow start = .ok place ↔
      ∃ next, tree.follow start piece = .ok next ∧ rest.foldlM tree.follow next = .ok place := by
  rw [List.foldlM_cons]
  cases tree.follow start piece with
  | error error => exact ⟨nofun, nofun⟩
  | ok next => exact ⟨fun onwards => ⟨next, rfl, onwards⟩, fun ⟨_, same, onwards⟩ => by
      cases same
      exact onwards⟩

theorem follow_of_not_name {place next : Place} {piece : Bytes}
    (nameless : Path.isName piece = false) (leads : tree.follow place piece = .ok next) :
    next = place := by
  have nowhere : piece = [] ∨ piece = Path.here := by
    by_cases empty : piece = []
    · exact .inl empty
    · exact .inr (by simpa [Path.isName, empty] using nameless)
  unfold follow at leads
  split at leads
  · nomatch leads
  · simpa [advance, nowhere] using leads.symm
  · nomatch leads

theorem foldlM_follow_names {pieces : List Bytes} {start place : Place}
    (leads : pieces.foldlM tree.follow start = .ok place) :
    (pieces.filter Path.isName).foldlM tree.follow start = .ok place := by
  induction pieces generalizing start with
  | nil => exact leads
  | cons piece rest induction =>
      rcases foldlM_follow_cons.mp leads with ⟨next, first, onwards⟩
      cases named : Path.isName piece with
      | true =>
          rw [List.filter_cons_of_pos named]
          exact foldlM_follow_cons.mpr ⟨next, first, induction onwards⟩
      | false =>
          rw [List.filter_cons_of_neg (by simp [named])]
          exact follow_of_not_name named first ▸ induction onwards

def start (absolute : Bool) : Place :=
  if absolute then .above else .within []

theorem foldlM_pieces_of_locate {path : Path} {place : Place}
    (leads : tree.locate path = .ok place) :
    path.pieces.foldlM tree.follow (start path.isAbsolute) = .ok place := by
  unfold locate at leads
  cases ways : route path with
  | error error =>
      rw [ways] at leads
      nomatch leads
  | ok way =>
      have begins : way = (start path.isAbsolute, path.pieces) := by
        grind [route, start]
      rw [ways, begins] at leads
      exact leads

/-- A path that leads somewhere leads where its components do. -/
theorem foldlM_names_of_locate {path : Path} {place : Place}
    (leads : tree.locate path = .ok place) :
    path.components.names.foldlM tree.follow (start path.components.absolute) = .ok place := by
  have onwards := foldlM_pieces_of_locate leads
  change path.components.names.foldlM tree.follow (start path.isAbsolute) = .ok place
  cases pieces : path.pieces with
  | nil => simpa [Path.components, pieces] using onwards
  | cons first later =>
      rw [pieces] at onwards
      rw [Path.names_of_pieces pieces]
      split
      next still =>
        rcases foldlM_follow_cons.mp onwards with ⟨next, begun, rest⟩
        exact foldlM_follow_cons.mpr ⟨next, still ▸ begun, foldlM_follow_names rest⟩
      next => exact foldlM_follow_names onwards

/-- Of two spellings of one place, those that lead to a file lead to the same file. -/
theorem read_eq_of_equiv {left right : Path} {contents other : Bytes} (equal : left ≈ right)
    (readLeft : tree.read left = .ok contents) (readRight : tree.read right = .ok other) :
    contents = other := by
  cases toLeft : tree.locate left with
  | error error =>
      rw [read, toLeft] at readLeft
      nomatch readLeft
  | ok place =>
      cases toRight : tree.locate right with
      | error error =>
          rw [read, toRight] at readRight
          nomatch readRight
      | ok other =>
          have same := foldlM_names_of_locate toLeft
          rw [Path.equiv_iff.mp equal, foldlM_names_of_locate toRight] at same
          rw [read, toLeft, ← same, ← toRight, ← read, readRight] at readLeft
          exact (Except.ok.inj readLeft).symm

end Directory

end SourceDiagnostics
