/-!
JSON as it is written: compact, with members in the order given. Inside a string only the quote,
the backslash and the characters below the space are escaped.
-/

namespace SourceDiagnostics

inductive Json where
  | boolean (value : Bool)
  | natural (value : Nat)
  | string (text : String)
  | array (elements : List Json)
  | object (members : List (String × Json))

namespace Json

def hexPair (number : Nat) : List Char :=
  [Nat.digitChar (number / 16), Nat.digitChar (number % 16)]

def escape : Char → List Char
  | '"' => ['\\', '"']
  | '\\' => ['\\', '\\']
  | '\x08' => ['\\', 'b']
  | '\x0c' => ['\\', 'f']
  | '\n' => ['\\', 'n']
  | '\r' => ['\\', 'r']
  | '\t' => ['\\', 't']
  | character =>
      if character < ' ' then ['\\', 'u', '0', '0'] ++ hexPair character.toNat else [character]

def quote (text : String) : List Char :=
  ['"'] ++ text.toList.flatMap escape ++ ['"']

def enclose (opening closing : Char) (items : List (List Char)) : List Char :=
  [opening] ++ (items.intersperse [',']).flatten ++ [closing]

mutual

def characters : Json → List Char
  | .boolean value => (toString value).toList
  | .natural value => (toString value).toList
  | .string text => quote text
  | .array elements => enclose '[' ']' (elementTexts elements)
  | .object members => enclose '\x7b' '\x7d' (memberTexts members)

def elementTexts : List Json → List (List Char)
  | [] => []
  | element :: rest => characters element :: elementTexts rest

def memberTexts : List (String × Json) → List (List Char)
  | [] => []
  | (name, value) :: rest => (quote name ++ [':'] ++ characters value) :: memberTexts rest

end

def render (value : Json) : String :=
  String.ofList value.characters

example : (array [string "a\x01/\"", boolean true, natural 12]).render =
    "[\"a\\u0001/\\\"\",true,12]" := by decide
example : (object [("k", array [])]).render = "\x7b\"k\":[]\x7d" := by decide

end Json

end SourceDiagnostics
