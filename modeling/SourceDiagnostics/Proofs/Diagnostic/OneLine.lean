import Mathlib.Data.List.Basic
import SourceDiagnostics.Diagnostic.Basic

/-!
The one-line form of a diagnostic, read back. A path and a message may contain anything, colons
included, so the line is read from the file on: behind the printed file, which has to be known,
three colons end the line, the column and the level, none of which has a colon in it, and the rest
is the message.
-/

namespace SourceDiagnostics.Diagnostic

def cut (characters : List Char) : List Char × List Char :=
  (characters.takeWhile (· != ':'), (characters.dropWhile (· != ':')).tail)

theorem cut_append {front : List Char} (whole : ':' ∉ front) (back : List Char) :
    cut (front ++ ':' :: back) = (front, back) := by
  have others : ∀ character ∈ front, (character != ':') = true := fun character member =>
    bne_iff_ne.mpr (ne_of_mem_of_not_mem member whole)
  simp [cut, List.takeWhile_append_of_pos others, List.dropWhile_append_of_pos others]

/-- What the one-line form of a diagnostic about a file tells: the position, whether it is a
warning, and the message. -/
def recover? (file : Path) (text : String) : Option (Position × Bool × String) := do
  let behindFile ← (file.display.toList ++ [':']).isPrefixOf? text.toList
  let (line, behindLine) := cut behindFile
  let (column, behindColumn) := cut behindLine
  let (level, behindLevel) := cut behindColumn
  let position : Position :=
    ⟨.ofNat (Nat.ofDigitChars 10 line 0), .ofNat (Nat.ofDigitChars 10 column 0)⟩
  return (position, level == " warning".toList, String.ofList behindLevel.tail)

def levelCharacters (diagnostic : Diagnostic) : List Char :=
  if diagnostic.isWarning then " warning".toList else " error".toList

theorem toList_toString (diagnostic : Diagnostic) :
    (toString diagnostic).toList =
      (diagnostic.file.display.toList ++ [':']) ++
        (Nat.toDigits 10 diagnostic.line.toNat ++ ':' ::
          (Nat.toDigits 10 diagnostic.column.toNat ++ ':' ::
            (diagnostic.levelCharacters ++ ':' :: ' ' :: diagnostic.message.toList))) := by
  have digits (number : Nat) : (toString number).toList = Nat.toDigits 10 number := Nat.toList_repr
  have printed : toString diagnostic =
      diagnostic.file.display ++ ":" ++ (toString diagnostic.line.toNat ++ ":" ++
        toString diagnostic.column.toNat) ++ ": " ++
        (if diagnostic.isWarning then "warning" else "error") ++ ": " ++ diagnostic.message := rfl
  rw [printed, levelCharacters]
  simp only [String.toList_append, digits]
  cases diagnostic.isWarning <;> simp

theorem colon_not_mem_toDigits (number : Nat) : ':' ∉ Nat.toDigits 10 number := fun member =>
  absurd (Nat.isDigit_of_mem_toDigits (by decide) (by decide) member) (by decide)

theorem colon_not_mem_levelCharacters (diagnostic : Diagnostic) :
    ':' ∉ diagnostic.levelCharacters := by
  rw [levelCharacters]
  split <;> decide

theorem levelCharacters_beq (diagnostic : Diagnostic) :
    (diagnostic.levelCharacters == " warning".toList) = diagnostic.isWarning := by
  rw [levelCharacters]
  cases diagnostic.isWarning <;> decide

theorem ofNat_ofDigitChars_toDigits (number : UInt32) :
    UInt32.ofNat (Nat.ofDigitChars 10 (Nat.toDigits 10 number.toNat) 0) = number := by
  rw [Nat.ofDigitChars_ten_toDigits, UInt32.ofNat_toNat]

theorem recover?_toString {file : Path} {diagnostic : Diagnostic}
    (printed : diagnostic.file.display = file.display) :
    recover? file (toString diagnostic) =
      some (diagnostic.position, diagnostic.isWarning, diagnostic.message) := by
  have line := cut_append (colon_not_mem_toDigits diagnostic.line.toNat)
  have column := cut_append (colon_not_mem_toDigits diagnostic.column.toNat)
  have level := cut_append diagnostic.colon_not_mem_levelCharacters
  rw [recover?, toList_toString, printed, List.isPrefixOf?_eq_some_iff_append_eq.mpr rfl]
  simp only [Option.bind_eq_bind, Option.bind_some, line, column, level,
    ofNat_ofDigitChars_toDigits, levelCharacters_beq, List.tail_cons, String.ofList_toList]
  rfl

/-- The one-line form of a diagnostic is unambiguous for whoever knows the file: the line, the
column, the level and the message can be read off it, whatever colons there are in the path and in
the message. So diagnostics whose files are printed alike, such as those of one file, have the same
one-line form only if they agree in all of these. -/
theorem toString_unambiguous :
    (∀ diagnostic : Diagnostic, recover? diagnostic.file (toString diagnostic) =
      some (⟨diagnostic.line, diagnostic.column⟩, diagnostic.isWarning, diagnostic.message)) ∧
    ∀ left right : Diagnostic, left.file.display = right.file.display →
      toString left = toString right →
        left.line = right.line ∧ left.column = right.column ∧
          left.isWarning = right.isWarning ∧ left.message = right.message := by
  constructor
  · exact fun diagnostic => recover?_toString rfl
  · intro left right printed same
    have told : some (left.position, left.isWarning, left.message) =
        some (right.position, right.isWarning, right.message) := by
      rw [← recover?_toString printed, same, recover?_toString rfl]
    simp only [Option.some.injEq, Prod.mk.injEq, position, Position.mk.injEq] at told
    rcases told with ⟨⟨line, column⟩, level, message⟩
    exact ⟨line, column, level, message⟩

/-- A message that looks like a diagnostic, in a file whose path does too and is no text. -/
theorem toString_unambiguous_of_misleading :
    let message := "x:1:2: error: y"
    let left := place message ⟨[0x78, 0x3A, 0x31, 0x3A, 0xFF]⟩ ⟨3, 10⟩ true
    let right := place message ⟨[0x78, 0x3A, 0x31, 0x3A, 0xFE]⟩ ⟨3, 10⟩ true
    left.file ≠ right.file ∧ left.file.display = right.file.display ∧
      toString left = toString right ∧ left.line = right.line ∧
      left.column = right.column ∧ left.isWarning = right.isWarning ∧
      left.message = right.message ∧
      recover? left.file (toString left) = some (⟨3, 10⟩, true, message) := by
  intro message left right
  have printed : left.file.display = right.file.display := by decide
  have same : toString left = toString right := by decide
  rcases toString_unambiguous with ⟨recovered, unambiguous⟩
  rcases unambiguous left right printed same with ⟨line, column, level, message⟩
  exact ⟨by decide, printed, same, line, column, level, message, recovered left⟩

/-! The file has to be known: where a path ends and a message begins, a line alone does not tell. -/

example :
    let short := place "b:2:2: error: c" (.ofString "a") ⟨1, 1⟩ false
    let long := place "c" (.ofString "a:1:1: error: b") ⟨2, 2⟩ false
    toString short = toString long ∧
      recover? short.file (toString short) = some (⟨1, 1⟩, false, "b:2:2: error: c") ∧
      recover? long.file (toString long) = some (⟨2, 2⟩, false, "c") := by
  decide

end SourceDiagnostics.Diagnostic
