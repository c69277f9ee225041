import SourceDiagnostics.Decimal.Shortest
import SourceDiagnostics.Json.Lexical
import SourceDiagnostics.Text.Quoted

/-!
JSON of the wrong kind: what was found where something else was expected, and how that is said.
-/

namespace SourceDiagnostics.Json

/-- What a JSON value is, as far as a reader looks at one that it cannot use: a scalar is read as
a whole, of a composite only the opening bracket. -/
inductive Found where
  | null
  | boolean (value : Bool)
  | integer (value : Int)
  | decimal (value : Float)
  | string (text : String)
  | sequence
  | map

def Found.describe : Found → String
  | null => "null"
  | boolean value => "boolean `" ++ toString value ++ "`"
  | integer value => "integer `" ++ toString value ++ "`"
  | decimal value => "floating point `" ++ Decimal.render value ++ "`"
  | string text => "string " ++ Text.Quoted.quote text
  | sequence => "sequence"
  | map => "map"

inductive Mismatch where
  | wrongKind (found : Found) (expected : String)
  | outOfRange (value : Int) (expected : String)
  | duplicateField (name : String)
  | unknownVariant (name : String) (expected : List String)

def Mismatch.message : Mismatch → String
  | wrongKind found expected => "invalid type: " ++ found.describe ++ ", expected " ++ expected
  | outOfRange value expected =>
      "invalid value: integer `" ++ toString value ++ "`, expected " ++ expected
  | duplicateField name => "duplicate field `" ++ name ++ "`"
  | unknownVariant name expected =>
      "unknown variant `" ++ name ++ "`, expected one of " ++
        ", ".intercalate (expected.map fun known => "`" ++ known ++ "`")

/-- What a number is: an integer, or a double. A number beyond all doubles is no JSON here. -/
def NumberText.found (number : NumberText) : Except (ReadError Mismatch) Found :=
  match number.integer? with
  | some value => .ok (.integer value)
  | none =>
      match number.literal.toFloat? with
      | some value => .ok (.decimal value)
      | none => .error .malformed

def readFound (input : List Char) : Except (ReadError Mismatch) Found :=
  match next? input with
  | none => .error .truncated
  | some ⟨first, rest, _⟩ =>
      match first with
      | 'n' => (readLetters ['u', 'l', 'l'] rest).map fun _ => .null
      | 't' => (readLetters ['r', 'u', 'e'] rest).map fun _ => .boolean true
      | 'f' => (readLetters ['a', 'l', 's', 'e'] rest).map fun _ => .boolean false
      | '"' => (readString .asText rest).map fun text => .string (String.ofList text.value)
      | '[' => .ok .sequence
      | '{' => .ok .map
      | _ =>
          if startsNumber first then do
            let number ← readNumber .truncated input
            number.value.found
          else .error .malformed

def wrongKind {α : Type} (expected : String) (input : List Char) : Reading Mismatch α input :=
  readFound input >>= fun found => .error (.rejected (.wrongKind found expected))

end SourceDiagnostics.Json
