import SourceDiagnostics.Decimal.Scaled

/-!
The words of a JSON text, read from the left: blanks, literal names, strings and numbers. Every
reading function says what it read and what is left, with a proof that the rest is shorter, so
that readers built from them terminate. Reading stops at the first fault, and a fault is told
apart from a text that merely ends too early.
-/

namespace SourceDiagnostics.Json

/-- Why a JSON text is refused: it ends inside a value, it is no JSON from some point on, or it is
JSON so far and holds something of the wrong kind. -/
inductive ReadError (Cause : Type) where
  | truncated
  | malformed
  | rejected (cause : Cause)
  deriving DecidableEq, Repr

structure Taken (α : Type) (input : List Char) where
  value : α
  rest : List Char
  shorter : rest.length < input.length

abbrev Reading (Cause α : Type) (input : List Char) :=
  Except (ReadError Cause) (Taken α input)

variable {Cause α β : Type}

/-! What is taken from the rest of a text is taken from the text. -/

def Taken.within {inner input : List Char} (taken : Taken α inner)
    (shorter : inner.length ≤ input.length) : Taken α input :=
  ⟨taken.value, taken.rest, Nat.lt_of_lt_of_le taken.shorter shorter⟩

def Taken.map {input : List Char} (convert : α → β) (taken : Taken α input) : Taken β input :=
  ⟨convert taken.value, taken.rest, taken.shorter⟩

def resume {rest input : List Char} (shorter : rest.length < input.length)
    (reading : Reading Cause α rest) : Reading Cause α input :=
  reading.map fun taken => taken.within (Nat.le_of_lt shorter)

def andThen {input : List Char} (reading : Reading Cause α input)
    (next : (value : α) → (rest : List Char) → rest.length < input.length → Reading Cause β rest) :
    Reading Cause β input :=
  match reading with
  | .error fault => .error fault
  | .ok ⟨value, rest, shorter⟩ => resume shorter (next value rest shorter)

/-! Blanks. -/

def isBlank (character : Char) : Bool :=
  character = ' ' || character = '\n' || character = '\t' || character = '\r'

def skipBlank (input : List Char) : List Char :=
  input.dropWhile isBlank

theorem length_skipBlank_le (input : List Char) : (skipBlank input).length ≤ input.length :=
  (List.dropWhile_sublist isBlank).length_le

theorem length_lt_of_skipBlank {input rest : List Char} {first : Char}
    (equal : skipBlank input = first :: rest) : rest.length < input.length := by
  have bound := length_skipBlank_le input
  rw [equal, List.length_cons] at bound
  omega

def next? (input : List Char) : Option (Taken Char input) :=
  match equal : skipBlank input with
  | [] => none
  | first :: rest => some ⟨first, rest, length_lt_of_skipBlank equal⟩

def readMark (mark : Char) (input : List Char) : Reading Cause Unit input :=
  match next? input with
  | none => .error .truncated
  | some ⟨first, rest, shorter⟩ =>
      if first = mark then .ok ⟨(), rest, shorter⟩ else .error .malformed

/-! Literal names, from their second letter on. -/

def readLetters : (letters input : List Char) →
    Except (ReadError Cause) { rest : List Char // rest.length ≤ input.length }
  | [], input => .ok ⟨input, Nat.le_refl _⟩
  | _ :: _, [] => .error .truncated
  | expected :: letters, first :: input => do
      if first = expected then
        let ⟨rest, bound⟩ ← readLetters letters input
        return ⟨rest, Nat.le_succ_of_le bound⟩
      else .error .malformed

def readName {rest input : List Char} (letters : List Char) (value : α)
    (shorter : rest.length < input.length) : Reading Cause α input := do
  let ⟨last, bound⟩ ← readLetters letters rest
  return ⟨value, last, Nat.lt_of_le_of_lt bound shorter⟩

/-! Strings. Each function starts after what announces its part: a string after the opening quote, an
escape after the backslash, four digits after the letter `u`. -/

def hexValue? (digit : Char) : Option Nat :=
  if digit.isDigit then some (digit.toNat - '0'.toNat)
  else if 'a' ≤ digit ∧ digit ≤ 'f' then some (digit.toNat - 'a'.toNat + 10)
  else if 'A' ≤ digit ∧ digit ≤ 'F' then some (digit.toNat - 'A'.toNat + 10)
  else none

/-- The number in the next four bytes. It is their count that decides whether the text has ended,
so a long character among the last bytes makes the text wrong and not short. -/
def readHexFour (input : List Char) : Reading Cause Nat input :=
  match input with
  | first :: second :: third :: fourth :: rest =>
      match [first, second, third, fourth].mapM hexValue? with
      | some digits =>
          .ok ⟨digits.foldl (fun value digit => value * 16 + digit) 0, rest, by simp; omega⟩
      | none => .error .malformed
  | short =>
      if (short.flatMap String.utf8EncodeChar).length < 4 then .error .truncated
      else .error .malformed

def isHighSurrogate (unit : Nat) : Bool :=
  0xD800 ≤ unit && unit < 0xDC00

def isLowSurrogate (unit : Nat) : Bool :=
  0xDC00 ≤ unit && unit < 0xE000

def joinSurrogates (high low : Nat) : Char :=
  Char.ofNat (0x10000 + (high - 0xD800) * 0x400 + (low - 0xDC00))

def readLowSurrogate (input : List Char) : Reading Cause Nat input :=
  match input with
  | '\\' :: 'u' :: rest => do
      let low ← readHexFour rest
      if isLowSurrogate low.value then return low.within (by simp; omega)
      else .error .malformed
  | [] | ['\\'] => .error .truncated
  | _ => .error .malformed

/-- How strings are read: as texts, where surrogates have to come in pairs, or only as far as
their end, where any four digits will do and the text is of no use. -/
inductive StringUse where
  | asText
  | skipped
  deriving DecidableEq, Repr

def readUnicodeEscape (use : StringUse) (input : List Char) : Reading Cause Char input := do
  let unit ← readHexFour input
  match use with
  | .skipped => return unit.map Char.ofNat
  | .asText =>
      if isLowSurrogate unit.value then .error .malformed
      else if isHighSurrogate unit.value then
        let low ← readLowSurrogate unit.rest
        return (low.map (joinSurrogates unit.value)).within (Nat.le_of_lt unit.shorter)
      else return unit.map Char.ofNat

def shortEscape? : Char → Option Char
  | '"' => some '"'
  | '\\' => some '\\'
  | '/' => some '/'
  | 'b' => some '\x08'
  | 'f' => some '\x0c'
  | 'n' => some '\n'
  | 'r' => some '\r'
  | 't' => some '\t'
  | _ => none

def readEscape (use : StringUse) (input : List Char) : Reading Cause Char input :=
  match input with
  | [] => .error .truncated
  | 'u' :: rest => do
      let taken ← readUnicodeEscape use rest
      return taken.within (by simp)
  | letter :: rest =>
      match shortEscape? letter with
      | some character => .ok ⟨character, rest, by simp⟩
      | none => .error .malformed

def readString (use : StringUse) (input : List Char) : Reading Cause (List Char) input :=
  match input with
  | [] => .error .truncated
  | '"' :: rest => .ok ⟨[], rest, by simp⟩
  | '\\' :: rest => do
      let ⟨character, later, shorter⟩ ← readEscape use rest
      let ⟨characters, last, shorter'⟩ ← readString use later
      return ⟨character :: characters, last, by simp; omega⟩
  | character :: rest =>
      if character < ' ' then .error .malformed
      else do
        let ⟨characters, last, shorter⟩ ← readString use rest
        return ⟨character :: characters, last, by simp; omega⟩
termination_by input.length

/-! Numbers. `cut` is the fault if the text ends where a digit has to come. -/

/-- A number as it is written; the last two parts may be absent. -/
structure NumberText where
  negative : Bool
  whole : List Nat
  fraction : Option (List Nat)
  exponent : Option (Bool × List Nat)
  deriving DecidableEq, Repr

def digitValue (digit : Char) : Nat :=
  digit.toNat - '0'.toNat

def readDigits (cut : ReadError Cause) (input : List Char) : Reading Cause (List Nat) input :=
  match input with
  | [] => .error cut
  | first :: rest =>
      if first.isDigit then
        .ok ⟨digitValue first :: (rest.takeWhile Char.isDigit).map digitValue,
          rest.dropWhile Char.isDigit,
          Nat.lt_succ_of_le (List.dropWhile_sublist Char.isDigit).length_le⟩
      else .error .malformed

def readWhole (cut : ReadError Cause) (input : List Char) : Reading Cause (List Nat) input := do
  let digits ← readDigits cut input
  if digits.value.head? = some 0 ∧ digits.value.length ≠ 1 then .error .malformed
  else return digits

def readFraction (cut : ReadError Cause) (input : List Char) :
    Except (ReadError Cause)
      (Option (List Nat) × { rest : List Char // rest.length ≤ input.length }) :=
  match input with
  | '.' :: rest => do
      let digits ← readDigits cut rest
      return (some digits.value, ⟨digits.rest, by have := digits.shorter; simp; omega⟩)
  | other => .ok (none, ⟨other, Nat.le_refl _⟩)

def exponentSign (input : List Char) : Bool × { rest : List Char // rest.length ≤ input.length } :=
  match input with
  | '-' :: rest => (true, ⟨rest, by simp⟩)
  | '+' :: rest => (false, ⟨rest, by simp⟩)
  | other => (false, ⟨other, Nat.le_refl _⟩)

def readExponent (cut : ReadError Cause) (input : List Char) :
    Except (ReadError Cause)
      (Option (Bool × List Nat) × { rest : List Char // rest.length ≤ input.length }) :=
  match input with
  | [] => .ok (none, ⟨[], Nat.le_refl _⟩)
  | first :: rest =>
      if first = 'e' ∨ first = 'E' then do
        let (negative, ⟨later, bound⟩) := exponentSign rest
        let digits ← readDigits cut later
        return (some (negative, digits.value),
          ⟨digits.rest, by have := digits.shorter; simp; omega⟩)
      else .ok (none, ⟨first :: rest, Nat.le_refl _⟩)

def readUnsigned (negative : Bool) (cut : ReadError Cause) (input : List Char) :
    Reading Cause NumberText input := do
  let whole ← readWhole cut input
  let (fraction, ⟨later, bound⟩) ← readFraction cut whole.rest
  let (exponent, ⟨last, bound'⟩) ← readExponent cut later
  return ⟨⟨negative, whole.value, fraction, exponent⟩, last, by have := whole.shorter; omega⟩

def readNumber (cut : ReadError Cause) (input : List Char) : Reading Cause NumberText input :=
  match next? input with
  | some ⟨'-', rest, shorter⟩ => resume shorter (readUnsigned true cut rest)
  | _ => do
      let number ← readUnsigned false cut (skipBlank input)
      return number.within (length_skipBlank_le input)

def startsNumber (first : Char) : Bool :=
  first = '-' || first.isDigit

namespace NumberText

/-- The number as digits and an exponent. An exponent of more than 64 bits is as good as any
other that large. -/
def literal (number : NumberText) : Decimal.Literal where
  negative := number.negative
  whole := number.whole
  fraction := number.fraction.getD []
  exponent :=
    match number.exponent with
    | none => 0
    | some (negative, digits) =>
        let magnitude : Int := Decimal.Literal.boundedNatural digits
        if negative then -magnitude else magnitude

/-- The number as an integer: it is written without a point and an exponent and fits in 64 bits,
signed if it has a sign. A negative zero is no integer. -/
def integer? (number : NumberText) : Option Int :=
  if number.fraction.isSome || number.exponent.isSome then none
  else
    let magnitude := Decimal.Literal.boundedNatural number.whole
    if number.negative then
      if magnitude = 0 ∨ 0x8000000000000000 < magnitude then none else some (-magnitude)
    else if magnitude < Decimal.significandBound then some magnitude
    else none

end NumberText

end SourceDiagnostics.Json
