import SourceDiagnostics.Diagnostic.Basic

/-!
The order in which an editor lists diagnostics: by position, and at one position in the order they
came in. The sort is stable, which is what keeps problems ahead of markers there.
-/

namespace SourceDiagnostics.Diagnostic

/-- Compares where two diagnostics stand, and nothing else about them. -/
def comparePosition (left right : Diagnostic) : Ordering :=
  compare left.position right.position

def sort (diagnostics : List Diagnostic) : List Diagnostic :=
  diagnostics.mergeSort fun left right => (comparePosition left right).isLE

end SourceDiagnostics.Diagnostic
