import SourceDiagnostics.Text.GraphemeBase

/-!
Texts in quotes, as traces and error messages show them. A character stands for itself if it can
be seen there for what it is: the quote and the backslash are escaped, and so are controls, marks
that would join the character before them, characters that are not assigned or not to be seen, and
all spaces but the common one.
-/

namespace SourceDiagnostics.Text

def hexDigits (number : Nat) : List Char :=
  Nat.toDigits 16 number

namespace Quoted

/-- The space characters: those with the general category Zs of the Unicode Character Database. -/
def isSpaceSeparator (character : Char) : Bool :=
  [0x20, 0xA0, 0x1680, 0x202F, 0x205F, 0x3000].contains character.toNat ||
    (0x2000 ≤ character.toNat && character.toNat ≤ 0x200A)

/-- The fillers in Korean text, letters that are not to be seen: of the characters that stand on
their own, these have the property Default_Ignorable_Code_Point. -/
def isFiller (character : Char) : Bool :=
  [0x115F, 0x1160, 0x3164, 0xFFA0].contains character.toNat

/-- The halfwidth sound marks of Japanese text, which have a width of their own: of the characters
that belong to the one before them, these are letters. -/
def isHalfwidthSoundMark (character : Char) : Bool :=
  character == '\uff9e' || character == '\uff9f'

def isPlain (character : Char) : Bool :=
  character == ' ' || isHalfwidthSoundMark character ||
    (isGraphemeBase character && !isSpaceSeparator character && !isFiller character)

/-- How one character is written between the quotes. Those that are not plain and have no short
form are written by their number in braces. -/
def escape : Char → List Char
  | '\x00' => ['\\', '0']
  | '\t' => ['\\', 't']
  | '\r' => ['\\', 'r']
  | '\n' => ['\\', 'n']
  | '"' => ['\\', '"']
  | '\\' => ['\\', '\\']
  | character =>
      if isPlain character then [character]
      else ['\\', 'u', '\x7b'] ++ hexDigits character.toNat ++ ['\x7d']

def quote (text : String) : String :=
  String.ofList (['"'] ++ text.toList.flatMap escape ++ ['"'])

def quoteOption : Option String → String
  | none => "None"
  | some text => "Some(" ++ quote text ++ ")"

example : quote "a\t'b'" = "\"a\\t'b'\"" := by decide +kernel
example : quote "é e\u0301" = "\"é e\\u\x7b301\x7d\"" := by decide +kernel
example : escape '\x1b' = "\\u\x7b1b\x7d".toList := by decide +kernel

end Quoted

end SourceDiagnostics.Text
