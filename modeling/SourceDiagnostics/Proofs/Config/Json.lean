import SourceDiagnostics.Config.Json
import SourceDiagnostics.Proofs.Json.Records
import SourceDiagnostics.Proofs.Json.Unambiguity

/-!
Which texts are settings, and which settings they are. What a text says about a setting depends on
the value that the text spells and on nothing else: not on blanks, not on escapes, not on the order
of keys, and not on keys that name no setting.
-/

namespace SourceDiagnostics

open Json

theorem Json.Reads.readAll_eq_ok_iff {α : Type}
    {read : (input : List Char) → Reading Mismatch α input} {Shape : Value → α → Prop}
    (reads : Reads read Shape) (text : String) (result : α) :
    readAll read text = .ok result ↔ ∃ value, IsText text.toList value ∧ Shape value result := by
  unfold readAll
  constructor
  · intro accepted
    cases came : read text.toList with
    | error fault =>
        rw [came] at accepted
        cases accepted
    | ok taken =>
        rw [came] at accepted
        change (if _ then Except.ok _ else .error _) = _ at accepted
        split at accepted
        · next ended =>
            cases accepted
            rcases reads.sound ⟨taken.shorter, came⟩ with ⟨start, value, before, spelled, fits⟩
            exact ⟨value, .of before spelled ((blanks_nil_iff _).mpr ended), fits⟩
        · cases accepted
  · rintro ⟨value, ⟨before, spelled, after⟩, fits⟩
    have delimited := after.startsIn_delimiters nofun
    rcases reads.complete before spelled delimited fits with ⟨shorter, came⟩
    rw [came]
    exact if_pos ((blanks_nil_iff _).mp after)

namespace TreeStyle

def keys : List String := ["configure_using_source_context", "skip_indexed_headers"]

def IsGivenBy (value : Value) (style : TreeStyle) : Prop :=
  ∃ given, Gives keys value given ∧
    Holds IsBoolean true (given "configure_using_source_context")
      style.configureUsingSourceContext ∧
    Holds IsBoolean true (given "skip_indexed_headers") style.skipIndexedHeaders

def layout : Layout TreeStyle where
  title := "struct AstStyle"
  parts := [
    { name := "configure_using_source_context"
      Content := Bool
      read := readBoolean
      Shape := IsBoolean
      get := configureUsingSourceContext
      put := fun value style => { style with configureUsingSourceContext := value }
      reads := readBoolean_reads
      get_put := fun _ _ => rfl },
    { name := "skip_indexed_headers"
      Content := Bool
      read := readBoolean
      Shape := IsBoolean
      get := skipIndexedHeaders
      put := fun value style => { style with skipIndexedHeaders := value }
      reads := readBoolean_reads
      get_put := fun _ _ => rfl }]
  blank := default
  distinct := by decide
  apart := by simp
  whole := by
    rintro ⟨_, _⟩ ⟨_, _⟩
    simp 

theorem isGivenBy_iff (value : Value) (style : TreeStyle) :
    IsGivenBy value style ↔ layout.Shape value style := by
  refine exists_congr fun given => and_congr_right fun _ => ?_
  simp only [Layout.Fills, layout, List.forall_mem_cons, List.not_mem_nil, false_implies,
    implies_true, and_true]
  exact Iff.rfl

theorem read_reads : Reads format.read IsGivenBy :=
  layout.reads.congr fun value result => (isGivenBy_iff value result).symm

end TreeStyle

namespace RefreshMode

def settingName : RefreshMode → String
  | .all => "all"
  | .checkTimestamps => "check_timestamps"
  | .checkContentsHash => "check_contents_hash"

theorem lookup_variants_iff (text : String) (mode : RefreshMode) :
    variants.lookup text = some mode ↔ mode.settingName = text := by
  constructor
  · intro found
    rcases List.lookup_eq_some_iff.mp found with ⟨before, after, split, -⟩
    have member : (text, mode) ∈ variants := by simp [split]
    simp only [variants, List.mem_cons, Prod.mk.injEq, List.not_mem_nil, or_false] at member
    rcases member with ⟨rfl, rfl⟩ | ⟨rfl, rfl⟩ | ⟨rfl, rfl⟩
    all_goals rfl
  · rintro rfl
    cases mode with
    | all => rfl
    | checkTimestamps => rfl
    | checkContentsHash => rfl

end RefreshMode

namespace Config

def keys : List String := ["error_severity", "ast_style", "update_mode", "forward_slashes"]

/-- A value gives settings: each of them is given or has its default. -/
def IsGivenBy (value : Value) (config : Config) : Prop :=
  ∃ given, Gives keys value given ∧
    Holds IsInt32 2 (given "error_severity") config.errorSeverity ∧
    Holds TreeStyle.IsGivenBy ⟨true, true⟩ (given "ast_style") config.treeStyle ∧
    Holds (IsVariant RefreshMode.settingName) .all (given "update_mode") config.refreshMode ∧
    Holds IsBoolean true (given "forward_slashes") config.forwardSlashes

def layout : Layout Config where
  title := "struct ValidatorConfig"
  parts := [
    { name := "error_severity"
      Content := Int32
      read := readInt32
      Shape := IsInt32
      get := errorSeverity
      put := fun value config => { config with errorSeverity := value }
      reads := readInt32_reads
      get_put := fun _ _ => rfl },
    { name := "ast_style"
      Content := TreeStyle
      read := TreeStyle.format.read
      Shape := TreeStyle.IsGivenBy
      get := treeStyle
      put := fun value config => { config with treeStyle := value }
      reads := TreeStyle.read_reads
      get_put := fun _ _ => rfl },
    { name := "update_mode"
      Content := RefreshMode
      read := readVariant RefreshMode.variants
      Shape := IsVariant RefreshMode.settingName
      get := refreshMode
      put := fun value config => { config with refreshMode := value }
      reads := readVariant_reads RefreshMode.lookup_variants_iff
      get_put := fun _ _ => rfl },
    { name := "forward_slashes"
      Content := Bool
      read := readBoolean
      Shape := IsBoolean
      get := forwardSlashes
      put := fun value config => { config with forwardSlashes := value }
      reads := readBoolean_reads
      get_put := fun _ _ => rfl }]
  blank := default
  distinct := by decide
  apart := by simp
  whole := by
    rintro ⟨_, _, _, _⟩ ⟨_, _, _, _⟩
    simp

theorem isGivenBy_iff (value : Value) (config : Config) :
    IsGivenBy value config ↔ layout.Shape value config := by
  refine exists_congr fun given => and_congr_right fun _ => ?_
  simp only [Layout.Fills, layout, List.forall_mem_cons, List.not_mem_nil, false_implies,
    implies_true, and_true]
  exact Iff.rfl

theorem read_reads : Reads format.read IsGivenBy :=
  layout.reads.congr fun value result => (isGivenBy_iff value result).symm

theorem ofJson?_of_isText {text : String} {value : Value} {config : Config}
    (spelled : IsText text.toList value) (gives : IsGivenBy value config) :
    ofJson? text = .ok config :=
  (read_reads.readAll_eq_ok_iff text config).mpr ⟨value, spelled, gives⟩

theorem holds_of_perm {α : Type} {Shape : Value → α → Prop} {default result : α}
    {values values' : List Value} (holds : Holds Shape default values result)
    (perm : values.Perm values') : Holds Shape default values' result := by
  cases holds with
  | absent =>
      rw [List.nil_perm.mp perm]
      exact .absent
  | given fits =>
      rw [← List.singleton_perm.mp perm]
      exact .given fits

/-- A text is accepted as settings if and only if it holds, with nothing but blanks around it, one
JSON value of the shape of settings, and then every setting that is given has the value it is given
and every other setting has its default. Neither the order of keys nor keys that name no setting
make a difference. -/
theorem ofJson_eq_ok_iff :
    (∀ text config, ofJson? text = .ok config ↔
      ∃ value, IsText text.toList value ∧ IsGivenBy value config) ∧
    ∀ text text' members members', IsText text.toList (.object members) →
      IsText text'.toList (.object members') →
      (∀ member ∈ members', ∃ key, Piece.Spells member.1 key) →
      (∀ key ∈ keys, (valuesOf members key).Perm (valuesOf members' key)) →
      ∀ config, ofJson? text = .ok config → ofJson? text' = .ok config := by
  refine ⟨fun text config => read_reads.readAll_eq_ok_iff text config, ?_⟩
  intro text text' members members' spelled spelled' texts same config accepted
  -- The value of the first text is the only one it has, so its members are the ones given.
  rcases (read_reads.readAll_eq_ok_iff text config).mp accepted with ⟨value, spelledValue, gives⟩
  cases spelledValue.unique spelled
  rcases gives with ⟨_, ⟨_⟩, severity, style, mode, slashes⟩
  refine ofJson?_of_isText spelled' ⟨_, .object texts, ?_, ?_, ?_, ?_⟩
  · exact holds_of_perm severity (same _ (by decide))
  · exact holds_of_perm style (same _ (by decide))
  · exact holds_of_perm mode (same _ (by decide))
  · exact holds_of_perm slashes (same _ (by decide))

end Config

end SourceDiagnostics
