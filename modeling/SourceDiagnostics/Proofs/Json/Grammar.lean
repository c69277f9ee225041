import SourceDiagnostics.Json.Lexical

/-!
JSON as a grammar, apart from any reader. Each relation says that a text begins with a certain
phrase, what the phrase spells, and what is left of the text. A string spells pieces and not
characters: an escape gives one half of a character above `FFFF`, and whether the halves fit
together is a question for whoever wants a text.
-/

namespace SourceDiagnostics.Json

inductive Blanks : (text rest : List Char) → Prop
  | none (rest : List Char) : Blanks rest rest
  | more {first : Char} {text rest : List Char} (blank : isBlank first = true)
      (later : Blanks text rest) : Blanks (first :: text) rest

/-! Strings. Each phrase starts after what announces it: a string after its opening quote, and four
digits after the letter `u`. -/

/-- A piece of a string: a character, or what a numeric escape stands for. -/
inductive Piece where
  | character (character : Char)
  | unit (unit : Nat)
  deriving DecidableEq, Repr

namespace Piece

/-- The text that pieces spell, if all surrogates among them come in pairs. -/
def text? : List Piece → Option (List Char)
  | [] => some []
  | character first :: rest => (text? rest).map (first :: ·)
  | unit first :: rest =>
      if isLowSurrogate first then none
      else if isHighSurrogate first then
        match rest with
        | unit second :: rest =>
            if isLowSurrogate second then (text? rest).map (joinSurrogates first second :: ·)
            else none
        | _ => none
      else (text? rest).map (Char.ofNat first :: ·)

def Spells (pieces : List Piece) (text : String) : Prop :=
  text? pieces = some text.toList

instance (pieces : List Piece) (text : String) : Decidable (Spells pieces text) :=
  inferInstanceAs (Decidable (text? pieces = some text.toList))

end Piece

inductive IsHexFour : (text : List Char) → (unit : Nat) → (rest : List Char) → Prop
  | of {first second third fourth : Char} {a b c d : Nat} (rest : List Char)
      (first_value : hexValue? first = some a) (second_value : hexValue? second = some b)
      (third_value : hexValue? third = some c) (fourth_value : hexValue? fourth = some d) :
      IsHexFour (first :: second :: third :: fourth :: rest)
        (((a * 16 + b) * 16 + c) * 16 + d) rest

inductive IsPiece : (text : List Char) → (piece : Piece) → (rest : List Char) → Prop
  | plain {character : Char} (rest : List Char) (no_control : ' ' ≤ character)
      (no_quote : character ≠ '"') (no_backslash : character ≠ '\\') :
      IsPiece (character :: rest) (.character character) rest
  | short {letter character : Char} (rest : List Char)
      (short : shortEscape? letter = some character) :
      IsPiece ('\\' :: letter :: rest) (.character character) rest
  | numeric {text rest : List Char} {unit : Nat} (digits : IsHexFour text unit rest) :
      IsPiece ('\\' :: 'u' :: text) (.unit unit) rest

inductive IsString : (text : List Char) → (pieces : List Piece) → (rest : List Char) → Prop
  | close (rest : List Char) : IsString ('"' :: rest) [] rest
  | more {text later rest : List Char} {piece : Piece} {pieces : List Piece}
      (first : IsPiece text piece later) (others : IsString later pieces rest) :
      IsString text (piece :: pieces) rest

/-! Numbers. The fraction and the exponent may be missing, and no zero stands in front of other digits
before the point. -/

inductive IsDigits : (text : List Char) → (digits : List Nat) → (rest : List Char) → Prop
  | one {first : Char} (rest : List Char) (digit : first.isDigit = true) :
      IsDigits (first :: rest) [digitValue first] rest
  | more {first : Char} {text rest : List Char} {digits : List Nat}
      (digit : first.isDigit = true) (others : IsDigits text digits rest) :
      IsDigits (first :: text) (digitValue first :: digits) rest

inductive IsSign : (text : List Char) → (negative : Bool) → (rest : List Char) → Prop
  | minus (rest : List Char) : IsSign ('-' :: rest) true rest
  | none (rest : List Char) : IsSign rest false rest

structure IsWhole (text : List Char) (digits : List Nat) (rest : List Char) : Prop where
  run : IsDigits text digits rest
  zero_alone : digits.head? = some 0 → digits.length = 1

inductive IsFraction :
    (text : List Char) → (digits : Option (List Nat)) → (rest : List Char) → Prop
  | point {text rest : List Char} {digits : List Nat} (run : IsDigits text digits rest) :
      IsFraction ('.' :: text) (some digits) rest
  | none (rest : List Char) : IsFraction rest none rest

inductive IsExponentSign : (text : List Char) → (negative : Bool) → (rest : List Char) → Prop
  | minus (rest : List Char) : IsExponentSign ('-' :: rest) true rest
  | plus (rest : List Char) : IsExponentSign ('+' :: rest) false rest
  | none (rest : List Char) : IsExponentSign rest false rest

inductive IsExponent :
    (text : List Char) → (exponent : Option (Bool × List Nat)) → (rest : List Char) → Prop
  | power {first : Char} {text unsigned rest : List Char} {negative : Bool} {digits : List Nat}
      (letter : first = 'e' ∨ first = 'E') (sign : IsExponentSign text negative unsigned)
      (run : IsDigits unsigned digits rest) :
      IsExponent (first :: text) (some (negative, digits)) rest
  | none (rest : List Char) : IsExponent rest none rest

inductive IsNumber : (text : List Char) → (number : NumberText) → (rest : List Char) → Prop
  | of {text unsigned pointed scaled rest : List Char} {number : NumberText}
      (sign : IsSign text number.negative unsigned) (whole : IsWhole unsigned number.whole pointed)
      (fraction : IsFraction pointed number.fraction scaled)
      (exponent : IsExponent scaled number.exponent rest) : IsNumber text number rest

/-! Values. Elements and members are those of an array or an object that has some, up to the closing
bracket. -/

/-- A JSON value as far as its text tells: numbers by their digits, strings by their pieces,
members in the order in which they come, repeated keys and all. -/
inductive Value where
  | null
  | boolean (value : Bool)
  | number (number : NumberText)
  | string (pieces : List Piece)
  | array (elements : List Value)
  | object (members : List (List Piece × Value))

inductive IsKey : (text : List Char) → (pieces : List Piece) → (rest : List Char) → Prop
  | of {text quoted named assigned rest : List Char} {pieces : List Piece}
      (before : Blanks text ('"' :: quoted)) (key : IsString quoted pieces named)
      (between : Blanks named (':' :: assigned)) (after : Blanks assigned rest) :
      IsKey text pieces rest

mutual

inductive IsValue : (text : List Char) → (value : Value) → (rest : List Char) → Prop
  | null (rest : List Char) : IsValue ('n' :: 'u' :: 'l' :: 'l' :: rest) .null rest
  | yes (rest : List Char) : IsValue ('t' :: 'r' :: 'u' :: 'e' :: rest) (.boolean true) rest
  | no (rest : List Char) :
      IsValue ('f' :: 'a' :: 'l' :: 's' :: 'e' :: rest) (.boolean false) rest
  | number {text rest : List Char} {number : NumberText} (spelled : IsNumber text number rest) :
      IsValue text (.number number) rest
  | string {text rest : List Char} {pieces : List Piece} (spelled : IsString text pieces rest) :
      IsValue ('"' :: text) (.string pieces) rest
  | emptyArray {text rest : List Char} (close : Blanks text (']' :: rest)) :
      IsValue ('[' :: text) (.array []) rest
  | array {text rest : List Char} {elements : List Value}
      (spelled : IsElements text elements rest) : IsValue ('[' :: text) (.array elements) rest
  | emptyObject {text rest : List Char} (close : Blanks text ('}' :: rest)) :
      IsValue ('{' :: text) (.object []) rest
  | object {text rest : List Char} {members : List (List Piece × Value)}
      (spelled : IsMembers text members rest) : IsValue ('{' :: text) (.object members) rest

inductive IsElements : (text : List Char) → (elements : List Value) → (rest : List Char) → Prop
  | last {text start after rest : List Char} {value : Value} (blanks : Blanks text start)
      (element : IsValue start value after) (close : Blanks after (']' :: rest)) :
      IsElements text [value] rest
  | more {text start after later rest : List Char} {value : Value} {elements : List Value}
      (blanks : Blanks text start) (element : IsValue start value after)
      (comma : Blanks after (',' :: later)) (others : IsElements later elements rest) :
      IsElements text (value :: elements) rest

inductive IsMembers :
    (text : List Char) → (members : List (List Piece × Value)) → (rest : List Char) → Prop
  | last {text start after rest : List Char} {pieces : List Piece} {value : Value}
      (key : IsKey text pieces start) (member : IsValue start value after)
      (close : Blanks after ('}' :: rest)) : IsMembers text [(pieces, value)] rest
  | more {text start after later rest : List Char} {pieces : List Piece} {value : Value}
      {members : List (List Piece × Value)} (key : IsKey text pieces start)
      (member : IsValue start value after) (comma : Blanks after (',' :: later))
      (others : IsMembers later members rest) : IsMembers text ((pieces, value) :: members) rest

end

inductive IsText : (text : List Char) → (value : Value) → Prop
  | of {text start after : List Char} {value : Value} (before : Blanks text start)
      (spelled : IsValue start value after) (after : Blanks after []) : IsText text value

end SourceDiagnostics.Json
