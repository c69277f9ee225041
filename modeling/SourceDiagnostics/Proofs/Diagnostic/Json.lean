import Mathlib.Data.List.Forall2
import SourceDiagnostics.Diagnostic.Json
import SourceDiagnostics.Proofs.Json.Rendering
import SourceDiagnostics.Proofs.Json.Unambiguity
import SourceDiagnostics.Proofs.Text.Utf8

/-!
Diagnostics survive being written as JSON: whoever reads the text gets every message, path, place
and flag back, in the order in which they were written. The one thing that can go wrong is a path
that is no text.
-/

namespace SourceDiagnostics.Diagnostic

open Json Text

/-! What is written. -/

def IsWrittenAs (diagnostic : Diagnostic) (object : Json) : Prop :=
  ∃ filename, Utf8.encode filename = diagnostic.file.bytes ∧ object = .object [
    ("message", .string diagnostic.message),
    ("filename", .string filename),
    ("line", .natural diagnostic.line.toNat),
    ("column", .natural diagnostic.column.toNat),
    ("warning", .boolean diagnostic.isWarning)]

theorem toJson_eq_ok_iff (diagnostic : Diagnostic) (object : Json) :
    toJson diagnostic = .ok object ↔ diagnostic.IsWrittenAs object := by
  have texts (filename : String) :
      diagnostic.file.toString? = some filename ↔ Utf8.encode filename = diagnostic.file.bytes :=
    (Utf8.decode?_eq_some_iff _ _).trans eq_comm
  unfold toJson
  constructor
  · intro written
    cases named : diagnostic.file.toString? with
    | none =>
        rw [named] at written
        cases written
    | some filename =>
        rw [named] at written
        cases written
        exact ⟨filename, (texts filename).mp named, rfl⟩
  · rintro ⟨filename, stored, rfl⟩
    rw [(texts filename).mpr stored]

theorem mapM_toJson_eq_ok_iff (diagnostics : List Diagnostic) (objects : List Json) :
    diagnostics.mapM toJson = .ok objects ↔ List.Forall₂ IsWrittenAs diagnostics objects := by
  induction diagnostics generalizing objects with
  | nil =>
      rw [List.mapM_nil, List.forall₂_nil_left_iff, eq_comm]
      exact ⟨Except.ok.inj, congrArg Except.ok⟩
  | cons first diagnostics induction =>
      rw [List.mapM_cons, List.forall₂_cons_left_iff]
      constructor
      · intro mapped
        cases written : toJson first with
        | error fault =>
            rw [written] at mapped
            cases mapped
        | ok object =>
            cases others : diagnostics.mapM toJson with
            | error fault =>
                rw [written, others] at mapped
                cases mapped
            | ok rest =>
                rw [written, others] at mapped
                cases mapped
                exact ⟨object, rest, (toJson_eq_ok_iff _ _).mp written, (induction rest).mp others,
                  rfl⟩
      · rintro ⟨object, rest, written, others, rfl⟩
        rw [(toJson_eq_ok_iff _ _).mpr written, (induction rest).mpr others]
        rfl

theorem renderJson_eq_ok_iff (diagnostics : List Diagnostic) (text : String) :
    renderJson diagnostics = .ok text ↔
      ∃ objects, List.Forall₂ IsWrittenAs diagnostics objects ∧ (Json.array objects).render = text := by
  simp only [← mapM_toJson_eq_ok_iff, renderJson]
  cases diagnostics.mapM toJson with
  | error fault => exact iff_of_false nofun nofun
  | ok objects => simp [Except.map]

theorem exists_objects_iff (diagnostics : List Diagnostic) :
    (∃ objects, List.Forall₂ IsWrittenAs diagnostics objects) ↔
      ∀ diagnostic ∈ diagnostics, ∃ filename, Utf8.encode filename = diagnostic.file.bytes := by
  induction diagnostics with
  | nil => exact iff_of_true ⟨[], .nil⟩ nofun
  | cons first diagnostics induction =>
      rw [List.forall_mem_cons, ← induction]
      constructor
      · rintro ⟨_, _ | ⟨⟨filename, stored, -⟩, others⟩⟩
        exact ⟨⟨filename, stored⟩, _, others⟩
      · rintro ⟨⟨filename, stored⟩, _, others⟩
        exact ⟨_, .cons ⟨filename, stored, rfl⟩ others⟩

/-! What cannot be written. -/

theorem mapM_toJson_eq_error_iff (diagnostics : List Diagnostic) (error : JsonError) :
    diagnostics.mapM toJson = .error error ↔
      ∃ first, diagnostics.find? (·.file.toString?.isNone) = some first ∧
        error = .pathNotText first.file := by
  induction diagnostics with
  | nil => exact iff_of_false nofun nofun
  | cons first diagnostics induction =>
      rw [List.mapM_cons, List.find?_cons]
      cases named : first.file.toString? with
      | none =>
          have unwritten : toJson first = .error (.pathNotText first.file) := by
            rw [toJson, named]
          rw [unwritten]
          constructor
          · intro stopped
            cases stopped
            exact ⟨first, rfl, rfl⟩
          · rintro ⟨_, ⟨⟩, rfl⟩
            rfl
      | some filename =>
          have written : ∃ object, toJson first = .ok object := by
            rw [toJson, named]
            exact ⟨_, rfl⟩
          rcases written with ⟨object, written⟩
          rw [written]
          simp only [Option.isNone_some, ← induction]
          cases diagnostics.mapM toJson with
          | error _ => rfl
          | ok _ => exact iff_of_false nofun nofun

/-- The first path that is no text is the one to blame. -/
theorem renderJson_eq_error_iff (diagnostics : List Diagnostic) (error : JsonError) :
    renderJson diagnostics = .error error ↔
      ∃ first, diagnostics.find? (·.file.toString?.isNone) = some first ∧
        error = .pathNotText first.file := by
  rw [← mapM_toJson_eq_error_iff, renderJson]
  cases diagnostics.mapM toJson with
  | error _ => simp [Except.map]
  | ok _ => exact iff_of_false nofun nofun

theorem renderJson_eq_error_iff_of_file {diagnostics : List Diagnostic} {file : Path}
    (same : ∀ diagnostic ∈ diagnostics, diagnostic.file = file) (error : JsonError) :
    renderJson diagnostics = .error error ↔
      diagnostics ≠ [] ∧ file.toString? = none ∧ error = .pathNotText file := by
  rw [renderJson_eq_error_iff]
  constructor
  · rintro ⟨first, found, rfl⟩
    have member := List.mem_of_find?_eq_some found
    have nameless := List.find?_some found
    rw [same first member] at nameless ⊢
    exact ⟨List.ne_nil_of_mem member, Option.isNone_iff_eq_none.mp nameless, rfl⟩
  · rintro ⟨nonempty, nameless, rfl⟩
    cases diagnostics with
    | nil => exact absurd rfl nonempty
    | cons first _ =>
        have file := same first List.mem_cons_self
        refine ⟨first, ?_, congrArg _ file.symm⟩
        rw [List.find?_cons_of_pos]
        rw [file, nameless]
        rfl

theorem IsWrittenAs.unique {diagnostic diagnostic' : Diagnostic} {object : Json}
    (written : diagnostic.IsWrittenAs object) (written' : diagnostic'.IsWrittenAs object) :
    diagnostic = diagnostic' := by
  rcases diagnostic with ⟨message, ⟨bytes⟩, line, column, isWarning, _, _⟩
  rcases diagnostic' with ⟨message', ⟨bytes'⟩, line', column', isWarning', _, _⟩
  rcases written with ⟨filename, rfl, rfl⟩
  rcases written' with ⟨filename', rfl, same⟩
  simp only [Json.object.injEq, List.cons.injEq, Prod.mk.injEq, Json.string.injEq,
    Json.natural.injEq, Json.boolean.injEq, UInt32.toNat_inj, true_and, and_true] at same
  rcases same with ⟨rfl, rfl, rfl, rfl, rfl⟩
  rfl

/-! What is read. -/

/-- A value gives a diagnostic: it is an object with the five keys and no others, and under them it
has the message, the path with the bytes that are stored, the line, the column, and whether the
diagnostic is a warning. -/
def IsGivenBy (value : Value) (diagnostic : Diagnostic) : Prop :=
  ∃ object, diagnostic.IsWrittenAs object ∧ Conveys value object

theorem forall₂_isGivenBy {diagnostics : List Diagnostic} {objects : List Json}
    {values : List Value} (written : List.Forall₂ IsWrittenAs diagnostics objects)
    (convey : ConveysElements values objects) : List.Forall₂ IsGivenBy values diagnostics := by
  induction written generalizing values with
  | nil =>
      cases convey
      exact .nil
  | cons first _ induction =>
      rcases convey with _ | ⟨conveys, convey⟩
      exact .cons ⟨_, first, conveys⟩ (induction convey)

theorem IsGivenBy.unique {value : Value} {diagnostic diagnostic' : Diagnostic}
    (given : IsGivenBy value diagnostic) (given' : IsGivenBy value diagnostic') :
    diagnostic = diagnostic' := by
  rcases given with ⟨object, written, conveys⟩
  rcases given' with ⟨object', written', conveys'⟩
  cases conveys.unique conveys'
  exact written.unique written'

theorem exists_values_of_renderJson {diagnostics : List Diagnostic} {text : String}
    (rendered : renderJson diagnostics = .ok text) :
    ∃ values, IsText text.toList (.array values) ∧ List.Forall₂ IsGivenBy values diagnostics := by
  rcases (renderJson_eq_ok_iff _ _).mp rendered with ⟨objects, written, rfl⟩
  rcases exists_value_of_render (.array objects) with ⟨value, spelled, conveys⟩
  cases conveys with
  | array convey => exact ⟨_, spelled, forall₂_isGivenBy written convey⟩

/-- Diagnostics are written just if the path of each of them is a text. Then the text is a JSON
text, and the one value to be read from it is an array that gives the diagnostics one by one and in
order, so no other diagnostics are written as that text. -/
theorem renderJson_faithful (diagnostics : List Diagnostic) :
    ((∃ text, renderJson diagnostics = .ok text) ↔
      ∀ diagnostic ∈ diagnostics, ∃ filename, Utf8.encode filename = diagnostic.file.bytes) ∧
    ∀ text, renderJson diagnostics = .ok text →
      (∃ values, (∀ value, IsText text.toList value ↔ value = .array values) ∧
        List.Forall₂ IsGivenBy values diagnostics) ∧
      ∀ diagnostics', renderJson diagnostics' = .ok text → diagnostics' = diagnostics := by
  refine ⟨?_, fun text rendered => ?_⟩
  · rw [← exists_objects_iff]
    constructor
    · rintro ⟨text, rendered⟩
      rcases (renderJson_eq_ok_iff _ _).mp rendered with ⟨objects, written, -⟩
      exact ⟨objects, written⟩
    · rintro ⟨objects, written⟩
      exact ⟨_, (renderJson_eq_ok_iff _ _).mpr ⟨objects, written, rfl⟩⟩
  · rcases exists_values_of_renderJson rendered with ⟨values, spelled, given⟩
    refine ⟨⟨values, fun value => ⟨fun also => also.unique spelled, ?_⟩, given⟩, ?_⟩
    · rintro rfl
      exact spelled
    · intro diagnostics' rendered'
      rcases exists_values_of_renderJson rendered' with ⟨values', spelled', given'⟩
      -- There is one value to be read, and each of its elements gives one diagnostic.
      cases spelled'.unique spelled
      have unique : Relator.RightUnique IsGivenBy := fun _ _ _ => IsGivenBy.unique
      exact List.right_unique_forall₂' unique given' given

end SourceDiagnostics.Diagnostic
