import SourceDiagnostics.Path
import SourceDiagnostics.Position

/-!
Diagnostics: a message at a line and column of a file, either an error or a warning. Lines and
columns of a diagnostic are at least one by its type, so an editor can always go there.
-/

namespace SourceDiagnostics

structure Diagnostic where
  message : String
  file : Path
  line : UInt32
  column : UInt32
  isWarning : Bool
  one_le_line : 1 ≤ line
  one_le_column : 1 ≤ column
  deriving DecidableEq, Repr

namespace Diagnostic

/-- The diagnostic at a position, with both coordinates raised to at least one. -/
def place (message : String) (file : Path) (position : Position) (isWarning : Bool) :
    Diagnostic where
  message := message
  file := file
  line := (Position.clamped position.line position.column).line
  column := (Position.clamped position.line position.column).column
  isWarning := isWarning
  one_le_line := Position.one_le_line_clamped position.line position.column
  one_le_column := Position.one_le_column_clamped position.line position.column

instance : Setoid Diagnostic where
  r left right :=
    left.message = right.message ∧ left.file ≈ right.file ∧ left.line = right.line ∧
      left.column = right.column ∧ left.isWarning = right.isWarning
  iseqv :=
    { refl := fun _ => ⟨rfl, Setoid.refl _, rfl, rfl, rfl⟩
      symm := fun ⟨message, file, line, column, isWarning⟩ =>
        ⟨message.symm, Setoid.symm file, line.symm, column.symm, isWarning.symm⟩
      trans := fun first second =>
        ⟨first.1.trans second.1, Setoid.trans first.2.1 second.2.1,
          first.2.2.1.trans second.2.2.1, first.2.2.2.1.trans second.2.2.2.1,
          first.2.2.2.2.trans second.2.2.2.2⟩ }

instance (left right : Diagnostic) : Decidable (left ≈ right) :=
  inferInstanceAs (Decidable (left.message = right.message ∧ left.file ≈ right.file ∧
    left.line = right.line ∧ left.column = right.column ∧ left.isWarning = right.isWarning))

def position (diagnostic : Diagnostic) : Position :=
  ⟨diagnostic.line, diagnostic.column⟩

def isError (diagnostic : Diagnostic) : Bool :=
  !diagnostic.isWarning

instance : ToString Diagnostic where
  toString diagnostic :=
    diagnostic.file.display ++ ":" ++ toString diagnostic.position ++ ": " ++
      (if diagnostic.isWarning then "warning" else "error") ++ ": " ++ diagnostic.message

def errorCount (diagnostics : List Diagnostic) : Nat :=
  diagnostics.countP isError

def warningCount (diagnostics : List Diagnostic) : Nat :=
  diagnostics.countP isWarning

def hasErrors (diagnostics : List Diagnostic) : Bool :=
  diagnostics.any isError

end Diagnostic

end SourceDiagnostics
