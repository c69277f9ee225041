/-!
UTF-8 over lists of bytes. `scan` reads any byte list as a list of items: a character for each
well-formed sequence, and a gap for each maximal stretch that begins like a sequence and does not
end as one. Reading strictly (`decode?`) refuses gaps, reading leniently (`lossy`) shows each gap
as one replacement character. An ASCII byte always ends a gap and is read as itself, so text
around an ASCII separator is read independently on both sides (`items_append_ascii`).
-/

namespace SourceDiagnostics

abbrev Bytes := List UInt8

end SourceDiagnostics

namespace SourceDiagnostics.Text.Utf8

/-! The bytes of a text. -/

def encodeChars (characters : List Char) : Bytes :=
  characters.flatMap String.utf8EncodeChar

def encode (text : String) : Bytes :=
  encodeChars text.toList

/-! A multi-byte sequence under way: the bits gathered so far, the range that the next byte has to
lie in, and how many bytes are still to come after that one. Only the second byte of a sequence
can have a range narrower than `80..BF`; the narrow ranges are what keeps overlong forms,
surrogates and values above `10FFFF` out. -/

structure Pending where
  value : Nat
  low : UInt8
  high : UInt8
  later : Nat
  above_ascii : 0x80 ≤ low := by decide
  deriving DecidableEq, Repr

abbrev Item := Option Char

/-- What the first byte of a sequence yields: an item at once, or a sequence under way. -/
def start (byte : UInt8) : List Item × Option Pending :=
  let begun (value : Nat) (later : Nat) : List Item × Option Pending :=
    ([], some { value, low := 0x80, high := 0xBF, later })
  if byte < 0x80 then ([some (Char.ofNat byte.toNat)], none)
  else if byte < 0xC2 then ([none], none)
  else if byte < 0xE0 then begun (byte.toNat - 0xC0) 0
  else if byte = 0xE0 then ([], some { value := 0, low := 0xA0, high := 0xBF, later := 1 })
  else if byte = 0xED then ([], some { value := 0xD, low := 0x80, high := 0x9F, later := 1 })
  else if byte < 0xF0 then begun (byte.toNat - 0xE0) 1
  else if byte = 0xF0 then ([], some { value := 0, low := 0x90, high := 0xBF, later := 2 })
  else if byte < 0xF4 then begun (byte.toNat - 0xF0) 2
  else if byte = 0xF4 then ([], some { value := 4, low := 0x80, high := 0x8F, later := 2 })
  else ([none], none)

/-- One byte more. A byte that cannot continue the sequence under way leaves a gap in its place
and is then read afresh. -/
def step : Option Pending → UInt8 → List Item × Option Pending
  | none, byte => start byte
  | some pending, byte =>
      if pending.low ≤ byte ∧ byte ≤ pending.high then
        let value := pending.value * 64 + (byte.toNat - 0x80)
        match pending.later with
        | 0 => ([some (Char.ofNat value)], none)
        | later + 1 => ([], some { value, low := 0x80, high := 0xBF, later })
      else
        (none :: (start byte).1, (start byte).2)

/-- The items of a byte list that follows the sequence under way; a sequence cut off by the end of
the list is a gap. -/
def scan : Option Pending → Bytes → List Item
  | none, [] => []
  | some _, [] => [none]
  | pending, byte :: rest => (step pending byte).1 ++ scan (step pending byte).2 rest

def items (bytes : Bytes) : List Item :=
  scan none bytes

def decode? (bytes : Bytes) : Option String :=
  ((items bytes).mapM id).map String.ofList

/-- The text of any byte list, with U+FFFD in the place of each gap. -/
def lossy (bytes : Bytes) : String :=
  String.ofList ((items bytes).map (·.getD '\uFFFD'))

/-! The gaps of some ill-formed lists: a truncated sequence before an ASCII byte is one gap, an
encoded surrogate is three, a truncated sequence of four is one, and an overlong form is two. -/

example : items [0xE2, 0x82, 0x5C] = [none, some '\\'] := by decide
example : items [0xED, 0xA0, 0x80] = [none, none, none] := by decide
example : items [0xF0, 0x9F, 0x98] = [none] := by decide
example : items [0xC0, 0xAF] = [none, none] := by decide
example : items (encodeChars ['é', '€', '😀']) = [some 'é', some '€', some '😀'] := by decide

/-! An ASCII byte ends whatever was under way, and nothing is under way after it. -/

theorem scan_cons (pending : Option Pending) (byte : UInt8) (rest : Bytes) :
    scan pending (byte :: rest) = (step pending byte).1 ++ scan (step pending byte).2 rest := by
  cases pending <;> rfl

theorem step_ascii (pending : Option Pending) {byte : UInt8} (ascii : byte < 0x80) :
    step pending byte = (scan pending [] ++ [some (Char.ofNat byte.toNat)], none) := by
  cases pending with
  | none => simp [step, start, scan, ascii]
  | some sequence =>
      have outside : ¬ (sequence.low ≤ byte ∧ byte ≤ sequence.high) := fun inside =>
        absurd (UInt8.le_trans sequence.above_ascii inside.1) (UInt8.not_le.mpr ascii)
      simp [step, start, scan, ascii, outside]

theorem scan_append_ascii (pending : Option Pending) (front back : Bytes) {byte : UInt8}
    (ascii : byte < 0x80) :
    scan pending (front ++ byte :: back) =
      scan pending front ++ some (Char.ofNat byte.toNat) :: items back := by
  induction front generalizing pending with
  | nil => simp [scan_cons, step_ascii pending ascii, items]
  | cons head tail induction => simp [scan_cons, induction]

theorem items_append_ascii (front back : Bytes) {byte : UInt8} (ascii : byte < 0x80) :
    items (front ++ byte :: back) =
      items front ++ some (Char.ofNat byte.toNat) :: items back :=
  scan_append_ascii none front back ascii

end SourceDiagnostics.Text.Utf8
