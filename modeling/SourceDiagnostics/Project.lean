import SourceDiagnostics.Path

/-!
Projects, their source files, and the workspace resources that markers attach to. Equality of
these things, written `left ≈ right`, compares names as texts and paths by their components; it is
kept by every way of building one from another.
-/

namespace SourceDiagnostics

structure Project where
  name : String
  root : Path
  deriving DecidableEq, Repr, Inhabited

namespace Project

instance : Setoid Project where
  r left right := left.name = right.name ∧ left.root ≈ right.root
  iseqv :=
    { refl := fun _ => ⟨rfl, Setoid.refl _⟩
      symm := fun equal => ⟨equal.1.symm, Setoid.symm equal.2⟩
      trans := fun first second =>
        ⟨first.1.trans second.1, Setoid.trans first.2 second.2⟩ }

instance (left right : Project) : Decidable (left ≈ right) :=
  inferInstanceAs (Decidable (left.name = right.name ∧ left.root ≈ right.root))

end Project

/-- What a marker attaches to, by its path in the workspace: `/`, the project's name, and the path
inside the project. It is no path of the file system. -/
structure Resource where
  path : Path
  deriving DecidableEq, Repr, Inhabited

namespace Resource

instance : Setoid Resource where
  r left right := left.path ≈ right.path
  iseqv :=
    { refl := fun _ => Setoid.refl _
      symm := fun equal => Setoid.symm equal
      trans := fun first second => Setoid.trans first second }

instance (left right : Resource) : Decidable (left ≈ right) :=
  inferInstanceAs (Decidable (left.path ≈ right.path))

def inProject (projectName : String) (path : Path) : Resource :=
  ⟨((Path.ofString "/").join (Path.ofString projectName)).join path⟩

end Resource

/-- A source file of a project: its path inside the project, where it lies on disk, and the
resource that its markers attach to. -/
structure SourceUnit where
  project : String
  path : Path
  location : Path
  resource : Resource
  deriving DecidableEq, Repr, Inhabited

namespace SourceUnit

instance : Setoid SourceUnit where
  r left right :=
    left.project = right.project ∧ left.path ≈ right.path ∧
      left.location ≈ right.location ∧ left.resource ≈ right.resource
  iseqv :=
    { refl := fun _ => ⟨rfl, Setoid.refl _, Setoid.refl _, Setoid.refl _⟩
      symm := fun ⟨project, path, location, resource⟩ =>
        ⟨project.symm, Setoid.symm path, Setoid.symm location, Setoid.symm resource⟩
      trans := fun first second =>
        ⟨first.1.trans second.1, Setoid.trans first.2.1 second.2.1,
          Setoid.trans first.2.2.1 second.2.2.1, Setoid.trans first.2.2.2 second.2.2.2⟩ }

instance (left right : SourceUnit) : Decidable (left ≈ right) :=
  inferInstanceAs (Decidable (left.project = right.project ∧ left.path ≈ right.path ∧
    left.location ≈ right.location ∧ left.resource ≈ right.resource))

def inProject (project : Project) (path : Path) : SourceUnit where
  project := project.name
  path := path
  location := project.root.join path
  resource := Resource.inProject project.name path

/-- The same unit with its file somewhere else, as linked files have it. -/
def withLocation (unit : SourceUnit) (location : Path) : SourceUnit :=
  { unit with location }

end SourceUnit

inductive LookupError where
  | unitNotFound (project : String) (path : Path)
  deriving DecidableEq, Repr

def LookupError.message : LookupError → String
  | .unitNotFound project path =>
      "no translation unit for '" ++ path.display ++ "' in project '" ++ project ++ "'"

inductive BuildError where
  | notScheduled (project : String) (reason : String)
  | failed (project : String) (reason : String)
  deriving DecidableEq, Repr

def BuildError.message : BuildError → String
  | .notScheduled project reason =>
      "could not schedule build of '" ++ project ++ "': " ++ reason
  | .failed project reason => "build of '" ++ project ++ "' failed: " ++ reason

end SourceDiagnostics
