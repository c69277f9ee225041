import SourceDiagnostics.Offsets.Memo
import SourceDiagnostics.Project
import SourceDiagnostics.Proofs.Path.Joining

/-!
Two spellings of one request. Whatever is made of equal projects and equal paths is equal, part by
part (`SourceUnit.inProject_interchangeable`): the same markers belong to both units, and a memo
takes their locations for one place, so it keeps one table for the two of them.
-/

namespace SourceDiagnostics

namespace Memo

variable {τ : Type}

theorem insert_congr {left right : Path} (equal : left ≈ right) (table : τ) (memo : Memo τ) :
    memo.insert left table = memo.insert right table := by
  rw [insert, insert, Path.equiv_iff.mp equal]

theorem forget_congr {left right : Path} (equal : left ≈ right) (memo : Memo τ) :
    memo.forget left = memo.forget right := by
  rw [forget, forget, Path.equiv_iff.mp equal]

end Memo

theorem Resource.inProject_congr (projectName : String) {path other : Path} (equal : path ≈ other) :
    inProject projectName path ≈ inProject projectName other :=
  Path.join_congr (Setoid.refl _) equal

namespace SourceUnit

/-- Nothing tells two units apart: they are equal part by part, and whatever a memo does at the
location of one of them it does at that of the other. -/
structure Interchangeable (unit other : SourceUnit) : Prop where
  equal : unit ≈ other
  project : unit.project = other.project
  path : unit.path ≈ other.path
  location : unit.location ≈ other.location
  resource : unit.resource ≈ other.resource
  found : ∀ {τ : Type} (memo : Memo τ), memo.find? unit.location = memo.find? other.location
  inserted : ∀ {τ : Type} (memo : Memo τ) (table : τ),
    memo.insert unit.location table = memo.insert other.location table
  forgotten : ∀ {τ : Type} (memo : Memo τ),
    memo.forget unit.location = memo.forget other.location

theorem Interchangeable.of_equiv {unit other : SourceUnit} (equal : unit ≈ other) :
    Interchangeable unit other := by
  rcases equal with ⟨project, path, location, resource⟩
  exact {
    equal := ⟨project, path, location, resource⟩
    project
    path
    location
    resource
    found := fun memo => memo.find?_congr location
    inserted := fun memo table => memo.insert_congr location table
    forgotten := fun memo => memo.forget_congr location }

theorem inProject_congr {left right : Project} (projects : left ≈ right) {path other : Path}
    (paths : path ≈ other) : inProject left path ≈ inProject right other := by
  rcases projects with ⟨name, root⟩
  refine ⟨name, paths, Path.join_congr root paths, ?_⟩
  change Resource.inProject left.name path ≈ Resource.inProject right.name other
  rw [name]
  exact Resource.inProject_congr right.name paths

theorem withLocation_congr {unit other : SourceUnit} (units : unit ≈ other) {location elsewhere : Path}
    (locations : location ≈ elsewhere) :
    unit.withLocation location ≈ other.withLocation elsewhere :=
  ⟨units.1, units.2.1, locations, units.2.2.2⟩

/-- The units of equal paths in equal projects cannot be told apart, and neither can they once they
are said to lie at equal places. -/
theorem inProject_interchangeable {left right : Project} {path other : Path}
    (projects : left ≈ right) (paths : path ≈ other) :
    Interchangeable (inProject left path) (inProject right other) ∧
      ∀ location elsewhere : Path, location ≈ elsewhere →
        Interchangeable ((inProject left path).withLocation location)
          ((inProject right other).withLocation elsewhere) := by
  have units := inProject_congr projects paths
  constructor
  · exact .of_equiv units
  · intro location elsewhere locations
    exact .of_equiv (withLocation_congr units locations)

/-- Two spellings of a root and of a path that begins with a `.`, in a project whose name is no
single component. -/
theorem inProject_interchangeable_of_spellings :
    let left : Project := ⟨"./team//demo/", .ofString "./work"⟩
    let right : Project := ⟨"./team//demo/", .ofString ".//work/."⟩
    let path : Path := .ofString ".//src/a.c"
    let other : Path := .ofString "./src/./a.c/"
    let location : Path := .ofString "/opt//a.c"
    let elsewhere : Path := .ofString "/opt/a.c/."
    left ≈ right ∧ path ≈ other ∧ location ≈ elsewhere ∧
      (inProject left path).location ≠ (inProject right other).location ∧
      (inProject left path).resource ≠ (inProject right other).resource ∧
      Interchangeable (inProject left path) (inProject right other) ∧
      Interchangeable ((inProject left path).withLocation location)
        ((inProject right other).withLocation elsewhere) := by
  intro left right path other location elsewhere
  have projects : left ≈ right := by decide
  have paths : path ≈ other := by decide
  have locations : location ≈ elsewhere := by decide
  rcases inProject_interchangeable projects paths with ⟨units, linked⟩
  exact ⟨projects, paths, locations, by decide, by decide, units,
    linked location elsewhere locations⟩

end SourceUnit

end SourceDiagnostics
