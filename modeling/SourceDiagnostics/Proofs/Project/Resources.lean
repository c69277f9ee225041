import SourceDiagnostics.Project
import SourceDiagnostics.Proofs.Path.Joining
import SourceDiagnostics.Proofs.Text.Ascii

/-!
Resources of different projects. The name of a project is the first name of every resource of the
project, and the names of the path inside it follow; so a resource tells its project, and the path up
to spelling (`inProject_equiv_iff`). Files below one root are told apart in the same way.
-/

namespace SourceDiagnostics

open Text

namespace Project

/-- A name that is one component of a path, just as it is. -/
structure IsComponent (name : String) : Prop where
  nonempty : name ≠ ""
  not_here : name ≠ "."
  unslashed : '/' ∉ name.toList

namespace IsComponent

variable {name : String} (component : IsComponent name)

include component

theorem slash_not_mem : Path.slash ∉ (Path.ofString name).bytes := by
  rw [← List.count_eq_zero]
  exact (Utf8.count_encodeChars (by decide) name.toList).trans
    (List.count_eq_zero.mpr component.unslashed)

theorem isAbsolute_ofString : (Path.ofString name).isAbsolute = false := by
  rw [Path.isAbsolute, beq_eq_false_iff_ne]
  exact fun first => component.slash_not_mem (List.mem_of_head? first)

theorem encode_ne_nil : Utf8.encode name ≠ [] := by
  intro empty
  have same : Utf8.encode name = Utf8.encode "" := empty
  exact component.nonempty (Utf8.encode_inj.mp same)

theorem encode_ne_here : Utf8.encode name ≠ Path.here := by
  intro here
  have same : Utf8.encode name = Utf8.encode "." := here
  exact component.not_here (Utf8.encode_inj.mp same)

theorem bareNames_ofString : (Path.ofString name).bareNames = [Utf8.encode name] := by
  have named : Path.isName (Utf8.encode name) = true := by
    simp [Path.isName, component.encode_ne_nil, component.encode_ne_here]
  rw [Path.bareNames, Path.pieces_of_slash_not_mem component.slash_not_mem]
  simp [Path.ofString, named]

end IsComponent

end Project

namespace Resource

open Project

variable {name other : String} {path path' : Path}

def workspaceRoot (name : String) : Path :=
  (Path.ofString "/").join (Path.ofString name)

theorem bytes_workspaceRoot (component : IsComponent name) :
    (workspaceRoot name).bytes = Path.slash :: Utf8.encode name := by
  rw [workspaceRoot, Path.join, component.isAbsolute_ofString]
  rfl

theorem components_workspaceRoot (component : IsComponent name) :
    (workspaceRoot name).components = ⟨true, [Utf8.encode name]⟩ := by
  rw [workspaceRoot, Path.components_join (by decide) component.isAbsolute_ofString,
    component.bareNames_ofString]
  rfl

theorem bytes_inProject (component : IsComponent name) (relative : path.isAbsolute = false) :
    (inProject name path).path.bytes =
      Path.slash :: (Utf8.encode name ++ Path.slash :: path.bytes) := by
  have unended : (Path.slash :: Utf8.encode name).getLast? ≠ some Path.slash := by
    rw [List.getLast?_cons_of_ne_nil component.encode_ne_nil]
    exact fun last => component.slash_not_mem (List.mem_of_getLast? last)
  change ((workspaceRoot name).join path).bytes = _
  rw [Path.join, relative, bytes_workspaceRoot component]
  simp [unended]

theorem components_inProject (component : IsComponent name) (relative : path.isAbsolute = false) :
    (inProject name path).path.components = ⟨true, Utf8.encode name :: path.bareNames⟩ := by
  have nonempty : (workspaceRoot name).bytes ≠ [] := by
    rw [bytes_workspaceRoot component]
    exact List.cons_ne_nil _ _
  change ((workspaceRoot name).join path).components = _
  rw [Path.components_join nonempty relative, components_workspaceRoot component]
  rfl

/-- A resource tells its project, and the path inside the project up to spelling. -/
theorem inProject_equiv_iff (component : IsComponent name) (component' : IsComponent other)
    (relative : path.isAbsolute = false) (relative' : path'.isAbsolute = false) :
    inProject name path ≈ inProject other path' ↔
      name = other ∧ path.bareNames = path'.bareNames := by
  change (inProject name path).path.components = (inProject other path').path.components ↔ _
  rw [components_inProject component relative, components_inProject component' relative']
  simp [Utf8.encode_inj]

end Resource

namespace SourceUnit

open Project

/-- A resource is the path of its file in the workspace, below a directory for each project. So files
of projects with different names never share a resource, and files of projects with one name do if
their paths have the same names, however these are spelled; below one root, they then lie at the same
place as well, and else they do not. A file that is said to lie elsewhere keeps its project, its path
and its resource. -/
theorem resources_keep_projects_apart (left right : Project) (path path' : Path)
    (named : IsComponent left.name) (named' : IsComponent right.name)
    (relative : path.isAbsolute = false) (relative' : path'.isAbsolute = false) :
    let unit := inProject left path
    let unit' := inProject right path'
    unit.resource.path.bytes =
        Path.slash :: (Utf8.encode left.name ++ Path.slash :: path.bytes) ∧
      (unit.resource ≈ unit'.resource ↔
        left.name = right.name ∧ path.bareNames = path'.bareNames) ∧
      (left.root ≈ right.root → left.root.bytes ≠ [] →
        (unit.location ≈ unit'.location ↔ path.bareNames = path'.bareNames)) ∧
      ∀ location,
        let linked := unit.withLocation location
        linked.location = location ∧ linked.project = unit.project ∧ linked.path = unit.path ∧
          linked.resource = unit.resource := by
  intro unit unit'
  refine ⟨Resource.bytes_inProject named relative, ?_, ?_, ?_⟩
  · exact Resource.inProject_equiv_iff named named' relative relative'
  · intro oneRoot nonempty
    exact Path.join_equiv_join_iff oneRoot nonempty relative relative'
  · intro location
    exact ⟨rfl, rfl, rfl, rfl⟩

/-- Two spellings of a file in a project whose root is spelled in two ways, and a project whose name
would lead to it if names of directories could be undone. -/
theorem resources_keep_projects_apart_of_spellings :
    let demo : Project := ⟨"demo", .ofString "./work"⟩
    let again : Project := ⟨"demo", .ofString "./work/."⟩
    let above : Project := ⟨"..", .ofString "./work"⟩
    let path : Path := .ofString "./src//a.c"
    let path' : Path := .ofString "src/./a.c/"
    let below : Path := .ofString "demo/src/a.c"
    IsComponent demo.name ∧ IsComponent above.name ∧ path.isAbsolute = false ∧
      path'.isAbsolute = false ∧ below.isAbsolute = false ∧ demo.root ≈ again.root ∧
      demo.root.bytes ≠ [] ∧ ¬ path ≈ path' ∧
      (inProject demo path).resource ≈ (inProject again path').resource ∧
      (inProject demo path).location ≈ (inProject again path').location ∧
      ¬ (inProject demo path).resource ≈ (inProject above below).resource := by
  intro demo again above path path' below
  have named : IsComponent "demo" := ⟨by decide, by decide, by decide⟩
  have upwards : IsComponent ".." := ⟨by decide, by decide, by decide⟩
  have oneRoot : demo.root ≈ again.root := by decide
  have nonempty : demo.root.bytes ≠ [] := by decide
  have spelled : path.bareNames = path'.bareNames := by decide
  rcases resources_keep_projects_apart demo again path path' named named (by decide) (by decide) with
    ⟨-, resources, locations, -⟩
  rcases resources_keep_projects_apart demo above path below named upwards (by decide)
    (by decide) with ⟨-, apart, -, -⟩
  refine ⟨named, upwards, by decide, by decide, by decide, oneRoot, nonempty, by decide, ?_, ?_, ?_⟩
  · exact resources.mpr ⟨rfl, spelled⟩
  · exact (locations oneRoot nonempty).mpr spelled
  · exact fun equal => absurd (apart.mp equal).left (by decide)

end SourceUnit

end SourceDiagnostics
