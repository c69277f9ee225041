import SourceDiagnostics.Config.Basic
import SourceDiagnostics.Json.Record

/-!
The settings of a validator as JSON: a record in which every setting may be left out.
-/

namespace SourceDiagnostics

def TreeStyle.format : Json.RecordFormat TreeStyle where
  title := "struct AstStyle"
  fields := [
    .of "configure_using_source_context" Json.readBoolean
      fun value style => { style with configureUsingSourceContext := value },
    .of "skip_indexed_headers" Json.readBoolean
      fun value style => { style with skipIndexedHeaders := value }]
  blank := default

def RefreshMode.variants : List (String × RefreshMode) := [
  ("all", .all),
  ("check_timestamps", .checkTimestamps),
  ("check_contents_hash", .checkContentsHash)]

def Config.format : Json.RecordFormat Config where
  title := "struct ValidatorConfig"
  fields := [
    .of "error_severity" Json.readInt32 fun value config => { config with errorSeverity := value },
    .of "ast_style" TreeStyle.format.read fun value config => { config with treeStyle := value },
    .of "update_mode" (Json.readVariant RefreshMode.variants)
      fun value config => { config with refreshMode := value },
    .of "forward_slashes" Json.readBoolean
      fun value config => { config with forwardSlashes := value }]
  blank := default

def Config.ofJson? (text : String) : Except (Json.ReadError Json.Mismatch) Config :=
  Json.readAll Config.format.read text

end SourceDiagnostics
