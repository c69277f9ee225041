import SourceDiagnostics.Path

/-!
Memos: tables remembered by the place that a path names. A memo also counts how often something
was forgotten. A table that took a while to read is remembered only if that count did not move in
the meantime, since what was read may be out of date by then.
-/

namespace SourceDiagnostics

/-- The tables remembered, one for each place, and how often tables were forgotten. The count has no
largest value: a counter of 64 bits is taken never to come round to a value it had before. -/
structure Memo (τ : Type) where
  tables : List (Path.Components × τ) := []
  generation : Nat := 0
  deriving DecidableEq, Repr, Inhabited

namespace Memo

variable {τ : Type}

def size (memo : Memo τ) : Nat :=
  memo.tables.length

def isEmpty (memo : Memo τ) : Bool :=
  memo.tables.isEmpty

def places (memo : Memo τ) : List Path.Components :=
  memo.tables.map (·.1)

def find? (memo : Memo τ) (path : Path) : Option τ :=
  memo.tables.lookup path.components

def insert (path : Path) (table : τ) (memo : Memo τ) : Memo τ :=
  { memo with
    tables := (path.components, table) :: memo.tables.filter (·.1 != path.components) }

def forget (path : Path) (memo : Memo τ) : Memo τ where
  tables := memo.tables.filter (·.1 != path.components)
  generation := memo.generation + 1

def clear (memo : Memo τ) : Memo τ where
  tables := []
  generation := memo.generation + 1

/-! What each operation does to the table that is found for a path. Paths that name one place
share a table, and every operation on one path leaves those that name other places alone. -/

theorem find?_congr {left right : Path} (memo : Memo τ) (equal : left ≈ right) :
    memo.find? left = memo.find? right := by
  rw [find?, find?, Path.equiv_iff.mp equal]

private theorem lookup_filter_ne (tables : List (Path.Components × τ))
    (place other : Path.Components) :
    (tables.filter (·.1 != other)).lookup place =
      if place = other then none else tables.lookup place := by
  induction tables with
  | nil => simp
  | cons head tail induction =>
      rcases head with ⟨key, table⟩
      by_cases removed : key = other
      · subst removed
        by_cases found : place = key
        · subst found
          simpa using induction
        · simpa [found, List.lookup_cons, beq_eq_false_iff_ne.mpr found] using induction
      · by_cases found : place = key
        · subst found
          simp [removed]
        · simp [removed, List.lookup_cons, beq_eq_false_iff_ne.mpr found, induction]

theorem find?_insert (memo : Memo τ) (path other : Path) (table : τ) :
    (memo.insert path table).find? other =
      if other ≈ path then some table else memo.find? other := by
  by_cases same : other.components = path.components
  · rw [if_pos (Path.equiv_iff.mpr same)]
    simp [find?, insert, same]
  · rw [if_neg (fun equal => same (Path.equiv_iff.mp equal))]
    simp [find?, insert, List.lookup_cons, beq_eq_false_iff_ne.mpr same, lookup_filter_ne, same]

theorem find?_forget (memo : Memo τ) (path other : Path) :
    (memo.forget path).find? other = if other ≈ path then none else memo.find? other := by
  by_cases same : other.components = path.components
  · rw [if_pos (Path.equiv_iff.mpr same)]
    simp [find?, forget, lookup_filter_ne, same]
  · rw [if_neg (fun equal => same (Path.equiv_iff.mp equal))]
    simp [find?, forget, lookup_filter_ne, same]

theorem find?_clear (memo : Memo τ) (path : Path) : memo.clear.find? path = none :=
  rfl

end Memo

end SourceDiagnostics
