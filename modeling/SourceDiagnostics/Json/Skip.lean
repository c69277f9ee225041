import SourceDiagnostics.Json.Lexical

/-!
Skipping a JSON value: reading it only as far as its end, to any depth. Its strings and numbers
have to be well-formed and are otherwise not looked at. A number that breaks off with the text is
counted as wrong here, and not as short.
-/

namespace SourceDiagnostics.Json

variable {Cause : Type}

/-- Whether the next character closes what has just been opened, so that there is nothing inside. -/
def closes? (closing : Char) (input : List Char) : Option (Taken Unit input) :=
  match next? input with
  | none => none
  | some taken => if taken.value = closing then some (taken.map fun _ => ()) else none

mutual

def skipValue (input : List Char) : Reading Cause Unit input :=
  match next? input with
  | none => .error .truncated
  | some ⟨first, rest, shorter⟩ =>
      match first with
      | 'n' => readName ['u', 'l', 'l'] () shorter
      | 't' => readName ['r', 'u', 'e'] () shorter
      | 'f' => readName ['a', 'l', 's', 'e'] () shorter
      | '"' => resume shorter ((readString .skipped rest).map (Taken.map fun _ => ()))
      | '[' =>
          resume shorter <|
            match closes? ']' rest with
            | some closed => .ok closed
            | none => skipElements rest
      | '{' =>
          resume shorter <|
            match closes? '}' rest with
            | some closed => .ok closed
            | none => skipMembers rest
      | _ =>
          if startsNumber first then (readNumber .malformed input).map (Taken.map fun _ => ())
          else .error .malformed
termination_by (input.length, 0)

def skipElements (input : List Char) : Reading Cause Unit input :=
  andThen (skipValue input) fun _ rest _ =>
    match next? rest with
    | none => .error .truncated
    | some ⟨first, later, shorter⟩ =>
        if first = ',' then resume shorter (skipElements later)
        else if first = ']' then .ok ⟨(), later, shorter⟩
        else .error .malformed
termination_by (input.length, 1)

def skipMembers (input : List Char) : Reading Cause Unit input :=
  andThen (readMark '"' input) fun _ named _ =>
  andThen (readString .skipped named) fun _ unquoted _ =>
  andThen (readMark ':' unquoted) fun _ assigned _ =>
  andThen (skipValue assigned) fun _ rest _ =>
    match next? rest with
    | none => .error .truncated
    | some ⟨first, later, shorter⟩ =>
        if first = ',' then resume shorter (skipMembers later)
        else if first = '}' then .ok ⟨(), later, shorter⟩
        else .error .malformed
termination_by (input.length, 1)

end

end SourceDiagnostics.Json
