import SourceDiagnostics.Json.Mismatch
import SourceDiagnostics.Json.Skip

/-!
Reading JSON values of a known kind: booleans, 32-bit integers, one of several names, and records.
A record is an object, in which fields may be missing or unknown and come in any order, or an
array of the values of its first fields. Fields that are not given keep their defaults.
-/

namespace SourceDiagnostics.Json

/-! Scalars. -/

def readBoolean (input : List Char) : Reading Mismatch Bool input :=
  match next? input with
  | none => .error .truncated
  | some ⟨first, _, shorter⟩ =>
      match first with
      | 't' => readName ['r', 'u', 'e'] true shorter
      | 'f' => readName ['a', 'l', 's', 'e'] false shorter
      | _ => wrongKind "a boolean" input

def NumberText.int32 (number : NumberText) : Except (ReadError Mismatch) Int32 :=
  match number.integer? with
  | some value =>
      if Int32.minValue.toInt ≤ value ∧ value ≤ Int32.maxValue.toInt then .ok (Int32.ofInt value)
      else .error (.rejected (.outOfRange value "i32"))
  | none => number.found >>= fun found => .error (.rejected (.wrongKind found "i32"))

def readInt32 (input : List Char) : Reading Mismatch Int32 input :=
  match next? input with
  | none => .error .truncated
  | some ⟨first, _, _⟩ =>
      if startsNumber first then do
        let number ← readNumber .truncated input
        let value ← number.value.int32
        return number.map fun _ => value
      else wrongKind "i32" input

def readNull (input : List Char) : Reading Mismatch Unit input :=
  match next? input with
  | none => .error .truncated
  | some ⟨first, _, shorter⟩ =>
      if first = 'n' then readName ['u', 'l', 'l'] () shorter else wrongKind "unit" input

/-! Variants: a value that is one of several, each with a name. It is given by its name alone, or
as an object with the name as its only key and null as the value. -/

def variant (variants : List (String × α)) (name : String) : Except (ReadError Mismatch) α :=
  match variants.lookup name with
  | some value => .ok value
  | none => .error (.rejected (.unknownVariant name (variants.map (·.1))))

def readVariantName (variants : List (String × α)) (input : List Char) :
    Reading Mismatch α input := do
  let name ← readString .asText input
  let value ← variant variants (String.ofList name.value)
  return name.map fun _ => value

def readVariantObject (variants : List (String × α)) (input : List Char) :
    Reading Mismatch α input :=
  andThen (readMark '"' input) fun _ named _ =>
  andThen (readVariantName variants named) fun value unquoted _ =>
  andThen (readMark ':' unquoted) fun _ assigned _ =>
  andThen (readNull assigned) fun _ rest _ =>
    (readMark '}' rest).map (Taken.map fun _ => value)

/-- A variant, in either form. A value that is neither a string nor an object is no JSON here. -/
def readVariant (variants : List (String × α)) (input : List Char) : Reading Mismatch α input :=
  match next? input with
  | none => .error .truncated
  | some ⟨first, rest, shorter⟩ =>
      match first with
      | '"' => resume shorter (readVariantName variants rest)
      | '{' => resume shorter (readVariantObject variants rest)
      | _ => .error .malformed

/-! Records. -/

structure Field (ρ : Type) where
  name : String
  read : (input : List Char) → Reading Mismatch (ρ → ρ) input

def Field.of {ρ α : Type} (name : String)
    (read : (input : List Char) → Reading Mismatch α input) (store : α → ρ → ρ) : Field ρ where
  name := name
  read := fun input => do
    let taken ← read input
    return taken.map store

structure RecordFormat (ρ : Type) where
  title : String
  fields : List (Field ρ)
  blank : ρ

/-- The values of the fields in order, up to the closing bracket. There may be fewer values than
fields, but not more. -/
def readElements {ρ : Type} (isFirst : Bool) (record : ρ) :
    (fields : List (Field ρ)) → (input : List Char) → Reading Mismatch ρ input
  | [], input => (readMark ']' input).map (Taken.map fun _ => record)
  | field :: later, input =>
      match next? input with
      | none => .error .truncated
      | some ⟨first, rest, shorter⟩ =>
          if first = ']' then .ok ⟨record, rest, shorter⟩
          else if isFirst then
            andThen (field.read input) fun store unread _ =>
              readElements false (store record) later unread
          else if first = ',' then
            resume shorter <|
              andThen (field.read rest) fun store unread _ =>
                readElements false (store record) later unread
          else .error .malformed

/-- One member of an object, from its key to its value: the record with the value put in, and the
names given so far. A key that names no field is passed over with its value; a key that names a
field must not come twice. -/
def readMember {ρ : Type} (fields : List (Field ρ)) (given : List String) (record : ρ)
    (input : List Char) : Reading Mismatch (List String × ρ) input :=
  andThen (readMark '"' input) fun _ quoted _ =>
  andThen (readString .asText quoted) fun key named _ =>
    let name := String.ofList key
    match fields.find? (·.name == name) with
    | none =>
        andThen (readMark ':' named) fun _ assigned _ =>
          (skipValue assigned).map (Taken.map fun _ => (given, record))
    | some field =>
        if given.contains name then .error (.rejected (.duplicateField name))
        else
          andThen (readMark ':' named) fun _ assigned _ =>
            (field.read assigned).map (Taken.map fun store => (name :: given, store record))

def readMembers {ρ : Type} (fields : List (Field ρ)) (given : List String) (record : ρ)
    (input : List Char) : Reading Mismatch ρ input :=
  andThen (readMember fields given record input) fun (given, record) rest _ =>
    match next? rest with
    | none => .error .truncated
    | some ⟨first, later, shorter⟩ =>
        if first = ',' then resume shorter (readMembers fields given record later)
        else if first = '}' then .ok ⟨record, later, shorter⟩
        else .error .malformed
termination_by input.length

def RecordFormat.read {ρ : Type} (format : RecordFormat ρ) (input : List Char) :
    Reading Mismatch ρ input :=
  match next? input with
  | none => .error .truncated
  | some ⟨first, rest, shorter⟩ =>
      match first with
      | '[' => resume shorter (readElements true format.blank format.fields rest)
      | '{' =>
          resume shorter <|
            match closes? '}' rest with
            | some closed => .ok (closed.map fun _ => format.blank)
            | none => readMembers format.fields [] format.blank rest
      | _ => wrongKind format.title input

def readAll {α : Type} (read : (input : List Char) → Reading Mismatch α input) (text : String) :
    Except (ReadError Mismatch) α := do
  let taken ← read text.toList
  if (skipBlank taken.rest).isEmpty then return taken.value
  else .error .malformed

end SourceDiagnostics.Json
