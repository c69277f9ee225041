import SourceDiagnostics.Text.Utf8

/-!
Paths. A path is stored as the bytes it was given and keeps them: joining, printing and comparing
never change it. Two paths name the same place, written `left ≈ right`, when their components
agree; that is coarser than equality of the stored bytes (`a/b`, `a//b`, `a/./b` and `a/b/` all
name one place), and it is the equality that projects, units, diagnostics and memoized tables go
by.
-/

namespace SourceDiagnostics

structure Path where
  bytes : Bytes
  deriving DecidableEq, Repr, Inhabited

namespace Path

open Text

def ofString (text : String) : Path :=
  ⟨Utf8.encode text⟩

def slash : UInt8 := 0x2F

def here : Bytes := [0x2E]

def isAbsolute (path : Path) : Bool :=
  path.bytes.head? == some slash

/-! What a path means: where it starts, and the names to follow from there. Pieces that lead
nowhere are no names: empty ones, and `.` except at the very start of a relative path. -/

structure Components where
  absolute : Bool
  names : List Bytes
  deriving DecidableEq, Repr

/-- Whether a piece other than the first leads somewhere. -/
def isName (piece : Bytes) : Bool :=
  !piece.isEmpty && piece != here

/-- The bytes between the slashes, in order. There is always a first piece. -/
def pieces (path : Path) : List Bytes :=
  path.bytes.splitOn slash

def ofPieces (pieces : List Bytes) : Path :=
  ⟨(pieces.intersperse [slash]).flatten⟩

def components (path : Path) : Components where
  absolute := path.isAbsolute
  names :=
    match path.pieces with
    | [] => []
    | first :: later =>
        (if first = here then [here] else [first].filter isName) ++ later.filter isName

/-- The names of a path are the pieces that lead somewhere, and a `.` that comes first. -/
theorem names_of_pieces {path : Path} {first : Bytes} {later : List Bytes}
    (pieces : path.pieces = first :: later) :
    path.components.names =
      if first = here then here :: later.filter isName else (first :: later).filter isName := by
  simp only [components, pieces]
  split
  next => rfl
  next => rw [← List.filter_append, List.singleton_append]

instance : Setoid Path where
  r left right := left.components = right.components
  iseqv := ⟨fun _ => rfl, Eq.symm, Eq.trans⟩

instance (left right : Path) : Decidable (left ≈ right) :=
  inferInstanceAs (Decidable (left.components = right.components))

theorem equiv_iff {left right : Path} : left ≈ right ↔ left.components = right.components :=
  Iff.rfl

example : ofString "a//b/" ≈ ofString "a/./b" := by decide
example : ¬ ofString "./a" ≈ ofString "a" := by decide
example : ¬ ofString "" ≈ ofString "." := by decide
example : ofString "//a" ≈ ofString "/a/." := by decide

/-! Joining. -/

/-- The path that `tail` has as seen from `base`. An absolute tail does not depend on the base. -/
def join (base tail : Path) : Path :=
  if tail.isAbsolute then tail
  else if base.bytes.isEmpty || base.bytes.getLast? == some slash then ⟨base.bytes ++ tail.bytes⟩
  else ⟨base.bytes ++ slash :: tail.bytes⟩

example : join (ofString "a") (ofString "") = ofString "a/" := by decide
example : join (ofString "") (ofString "b") = ofString "b" := by decide

/-! Printing. -/

/-- The text of a path for people, which shows bytes that are no text as U+FFFD. -/
def display (path : Path) : String :=
  Utf8.lossy path.bytes

def toString? (path : Path) : Option String :=
  Utf8.decode? path.bytes

def forwardSlashes (path : Path) : Path :=
  ofString (path.display.map fun character => if character = '\\' then '/' else character)

end Path

end SourceDiagnostics
