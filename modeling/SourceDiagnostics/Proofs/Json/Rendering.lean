import SourceDiagnostics.Json
import SourceDiagnostics.Proofs.Json.Scalars

/-!
What is written can be read. The characters of a written value are a value of the grammar, whatever
follows them, and that value conveys what was written: the same strings, the same numbers, and
elements and members in the same order.
-/

namespace SourceDiagnostics.Json

/-! Strings. An escape is one piece, and the piece stands for the character that is escaped. -/

theorem hexValue?_digitChar : ∀ digit < 16, hexValue? (Nat.digitChar digit) = some digit := by
  decide

theorem isHexFour_hexPair {number : Nat} (small : number < 256) (rest : List Char) :
    IsHexFour ('0' :: '0' :: (hexPair number ++ rest)) number rest := by
  have high := hexValue?_digitChar (number / 16) (by omega)
  have low := hexValue?_digitChar (number % 16) (by omega)
  have spelled : IsHexFour ('0' :: '0' :: (hexPair number ++ rest))
      (((0 * 16 + 0) * 16 + number / 16) * 16 + number % 16) rest := .of rest rfl rfl high low
  have value : ((0 * 16 + 0) * 16 + number / 16) * 16 + number % 16 = number := by omega
  rwa [value] at spelled

theorem exists_piece_of_escape (character : Char) (rest : List Char) :
    ∃ piece, IsPiece (escape character ++ rest) piece rest ∧
      ∀ others, Piece.text? (piece :: others) = (Piece.text? others).map (character :: ·) := by
  unfold escape
  split
  case h_8 no_quote no_backslash _ _ _ _ _ =>
    split
    · next control =>
        -- A number this small is no half of a pair, so it stands for its own character.
        have small : character.toNat < 0x20 := control
        have not_low : isLowSurrogate character.toNat = false := by
          simp only [isLowSurrogate, Bool.and_eq_false_imp, decide_eq_true_eq]
          omega
        have not_high : isHighSurrogate character.toNat = false := by
          simp only [isHighSurrogate, Bool.and_eq_false_imp, decide_eq_true_eq]
          omega
        have digits := isHexFour_hexPair (Nat.lt_trans small (by decide)) rest
        refine ⟨.unit character.toNat, .numeric digits, fun others => ?_⟩
        rw [Piece.text?_unit not_low not_high, Char.ofNat_toNat]
    · next no_control =>
        exact ⟨.character character, .plain rest (Char.not_lt.mp no_control) no_quote no_backslash,
          fun _ => rfl⟩
  all_goals exact ⟨.character _, .short rest rfl, fun _ => rfl⟩

theorem exists_pieces_of_escapes (characters rest : List Char) :
    ∃ pieces, IsString (characters.flatMap escape ++ '"' :: rest) pieces rest ∧
      Piece.text? pieces = some characters := by
  induction characters with
  | nil => exact ⟨[], .close rest, rfl⟩
  | cons first characters induction =>
      rcases induction with ⟨others, spelled, spells⟩
      rcases exists_piece_of_escape first (characters.flatMap escape ++ '"' :: rest) with
        ⟨piece, escaped, stands⟩
      refine ⟨piece :: others, ?_, ?_⟩
      · rw [List.flatMap_cons, List.append_assoc]
        exact .more escaped spelled
      · rw [stands, spells, Option.map_some]

theorem exists_pieces_of_quote (text : String) (rest : List Char) :
    ∃ string pieces, quote text ++ rest = '"' :: string ∧ IsString string pieces rest ∧
      Piece.Spells pieces text := by
  rcases exists_pieces_of_escapes text.toList rest with ⟨pieces, spelled, spells⟩
  exact ⟨_, pieces, by simp [quote], spelled, spells⟩

theorem exists_key_of_quote (name : String) (rest : List Char) :
    ∃ pieces, IsKey (quote name ++ ':' :: rest) pieces rest ∧ Piece.Spells pieces name := by
  rcases exists_pieces_of_quote name (':' :: rest) with ⟨string, pieces, quoted, spelled, spells⟩
  refine ⟨pieces, .of ?_ spelled (.none _) (.none _), spells⟩
  rw [quoted]
  exact .none _

/-! Numbers. -/

theorem isDigits_append {digits : List Char} (nonempty : digits ≠ [])
    (all : ∀ digit ∈ digits, digit.isDigit = true) (rest : List Char) :
    IsDigits (digits ++ rest) (digits.map digitValue) rest := by
  induction digits with
  | nil => exact absurd rfl nonempty
  | cons first digits induction =>
      have digit := all first List.mem_cons_self
      cases digits with
      | nil => exact .one rest digit
      | cons second digits =>
          exact .more digit (induction nofun fun digit member => all digit (.tail _ member))

theorem exists_head_toDigits {number : Nat} (positive : 0 < number) :
    ∃ first tail, (Nat.toDigits 10 number).map digitValue = first :: tail ∧ first ≠ 0 := by
  induction number using Nat.strongRecOn with
  | ind number induction =>
      rw [Nat.toDigits_eq_if (by decide)]
      split
      · next small =>
          have value : digitValue (Nat.digitChar number) = number :=
            Nat.toNat_digitChar_sub_48_of_lt_ten small
          exact ⟨number, [], by rw [List.map_singleton, value], Nat.ne_of_gt positive⟩
      · next large =>
          rcases induction (number / 10) (by omega) (by omega) with ⟨first, tail, same, nonzero⟩
          exact ⟨first, _, by rw [List.map_append, same, List.cons_append], nonzero⟩

theorem natural_map_digitValue (digits : List Char) :
    Decimal.Literal.natural (digits.map digitValue) = Nat.ofDigitChars 10 digits 0 := by
  simp only [Decimal.Literal.natural, List.foldl_map, Nat.ofDigitChars_eq_foldl, digitValue,
    Nat.mul_comm]

theorem exists_number_of_natural (value : Nat) (rest : List Char) :
    ∃ number : NumberText, IsNumber ((toString value).toList ++ rest) number rest ∧
      number.IsInteger value := by
  have digits : (toString value).toList = Nat.toDigits 10 value := Nat.toList_repr
  have run :
      IsDigits (Nat.toDigits 10 value ++ rest) ((Nat.toDigits 10 value).map digitValue) rest :=
    isDigits_append Nat.toDigits_ne_nil
      (fun digit member => Nat.isDigit_of_mem_toDigits (by decide) (by decide) member) rest
  have alone : ((Nat.toDigits 10 value).map digitValue).head? = some 0 →
      ((Nat.toDigits 10 value).map digitValue).length = 1 := by
    rcases Nat.eq_zero_or_pos value with rfl | positive
    · exact fun _ => rfl
    · rcases exists_head_toDigits positive with ⟨first, tail, same, nonzero⟩
      rw [same]
      exact fun zero => absurd (Option.some.inj zero) nonzero
  have number : Decimal.Literal.natural ((Nat.toDigits 10 value).map digitValue) = value := by
    rw [natural_map_digitValue, Nat.ofDigitChars_ten_toDigits]
  refine ⟨⟨false, (Nat.toDigits 10 value).map digitValue, none, none⟩, ?_, ?_⟩
  · rw [digits]
    exact .of (.none _) ⟨run, alone⟩ (.none _) (.none _)
  · exact ⟨rfl, rfl, nofun, by simp [number]⟩

/-! Values. -/

mutual

/-- What is read conveys what was written. -/
inductive Conveys : Value → Json → Prop
  | boolean (value : Bool) : Conveys (.boolean value) (.boolean value)
  | natural {number : NumberText} {value : Nat} (integer : number.IsInteger value) :
      Conveys (.number number) (.natural value)
  | string {pieces : List Piece} {text : String} (spells : Piece.Spells pieces text) :
      Conveys (.string pieces) (.string text)
  | array {values : List Value} {elements : List Json} (each : ConveysElements values elements) :
      Conveys (.array values) (.array elements)
  | object {members : List (List Piece × Value)} {written : List (String × Json)}
      (each : ConveysMembers members written) : Conveys (.object members) (.object written)

inductive ConveysElements : List Value → List Json → Prop
  | none : ConveysElements [] []
  | more {value : Value} {element : Json} {values : List Value} {elements : List Json}
      (first : Conveys value element) (others : ConveysElements values elements) :
      ConveysElements (value :: values) (element :: elements)

inductive ConveysMembers : List (List Piece × Value) → List (String × Json) → Prop
  | none : ConveysMembers [] []
  | more {pieces : List Piece} {name : String} {value : Value} {member : Json}
      {members : List (List Piece × Value)} {written : List (String × Json)}
      (key : Piece.Spells pieces name) (first : Conveys value member)
      (others : ConveysMembers members written) :
      ConveysMembers ((pieces, value) :: members) ((name, member) :: written)

end

theorem enclose_append (opening closing : Char) (items : List (List Char)) (rest : List Char) :
    enclose opening closing items ++ rest =
      opening :: ((items.intersperse [',']).flatten ++ closing :: rest) := by
  simp [enclose]

mutual

/-- Whatever follows it, the text of a value is a value that conveys what was written. -/
theorem exists_value_of_characters (rest : List Char) :
    (json : Json) → ∃ value, IsValue (json.characters ++ rest) value rest ∧ Conveys value json
  | .boolean true => ⟨.boolean true, .yes rest, .boolean true⟩
  | .boolean false => ⟨.boolean false, .no rest, .boolean false⟩
  | .natural value => by
      rcases exists_number_of_natural value rest with ⟨number, spelled, integer⟩
      exact ⟨.number number, .number spelled, .natural integer⟩
  | .string text => by
      rcases exists_pieces_of_quote text rest with ⟨string, pieces, quoted, spelled, spells⟩
      refine ⟨.string pieces, ?_, .string spells⟩
      rw [characters, quoted]
      exact .string spelled
  | .array [] => ⟨.array [], .emptyArray (.none _), .array .none⟩
  | .array (element :: elements) => by
      rcases exists_elements_of_texts rest (element :: elements) nofun with
        ⟨values, spelled, convey⟩
      refine ⟨.array values, ?_, .array convey⟩
      rw [characters, enclose_append]
      exact .array spelled
  | .object [] => ⟨.object [], .emptyObject (.none _), .object .none⟩
  | .object (member :: written) => by
      rcases exists_members_of_texts rest (member :: written) nofun with
        ⟨members, spelled, convey⟩
      refine ⟨.object members, ?_, .object convey⟩
      rw [characters, enclose_append]
      exact .object spelled

theorem exists_elements_of_texts (rest : List Char) :
    (elements : List Json) → elements ≠ [] → ∃ values,
      IsElements ((List.intersperse [','] (elementTexts elements)).flatten ++ ']' :: rest)
        values rest ∧ ConveysElements values elements
  | [], nonempty => absurd rfl nonempty
  | [element], _ => by
      rcases exists_value_of_characters (']' :: rest) element with ⟨value, spelled, conveys⟩
      refine ⟨[value], .last (.none _) ?_ (.none _), .more conveys .none⟩
      simpa [elementTexts] using spelled
  | element :: next :: elements, _ => by
      rcases exists_elements_of_texts rest (next :: elements) nofun with ⟨values, others, convey⟩
      rcases exists_value_of_characters (',' :: _) element with ⟨value, spelled, conveys⟩
      refine ⟨value :: values, .more (.none _) ?_ (.none _) others, .more conveys convey⟩
      simpa [elementTexts] using spelled

theorem exists_members_of_texts (rest : List Char) :
    (written : List (String × Json)) → written ≠ [] → ∃ members,
      IsMembers ((List.intersperse [','] (memberTexts written)).flatten ++ '}' :: rest)
        members rest ∧ ConveysMembers members written
  | [], nonempty => absurd rfl nonempty
  | [(name, member)], _ => by
      rcases exists_value_of_characters ('}' :: rest) member with ⟨value, spelled, conveys⟩
      rcases exists_key_of_quote name (member.characters ++ '}' :: rest) with ⟨pieces, key, spells⟩
      refine ⟨[(pieces, value)], .last ?_ spelled (.none _), .more spells conveys .none⟩
      simpa [memberTexts] using key
  | (name, member) :: next :: written, _ => by
      rcases exists_members_of_texts rest (next :: written) nofun with ⟨members, others, convey⟩
      rcases exists_value_of_characters (',' :: _) member with ⟨value, spelled, conveys⟩
      rcases exists_key_of_quote name (member.characters ++ ',' :: _) with ⟨pieces, key, spells⟩
      refine ⟨(pieces, value) :: members, .more ?_ spelled (.none _) others,
        .more spells conveys convey⟩
      simpa [memberTexts] using key

end

theorem exists_value_of_render (json : Json) :
    ∃ value, IsText json.render.toList value ∧ Conveys value json := by
  rcases exists_value_of_characters [] json with ⟨value, spelled, conveys⟩
  rw [List.append_nil] at spelled
  exact ⟨value, String.toList_ofList ▸ .of (.none _) spelled (.none _), conveys⟩

mutual

theorem Conveys.unique {value : Value} {json json' : Json} (second : Conveys value json') :
    Conveys value json → json = json'
  | .boolean _ => by
      cases second with
      | boolean => rfl
  | .natural integer => by
      cases second with
      | natural integer' =>
          have same := integer.value_eq.trans integer'.value_eq.symm
          rw [Int.ofNat_inj.mp same]
  | .string spells => by
      cases second with
      | string spells' => rw [spells.unique spells']
  | .array each => by
      cases second with
      | array each' => rw [ConveysElements.unique each' each]
  | .object each => by
      cases second with
      | object each' => rw [ConveysMembers.unique each' each]

theorem ConveysElements.unique {values : List Value} {elements elements' : List Json}
    (second : ConveysElements values elements') :
    ConveysElements values elements → elements = elements'
  | .none => by
      cases second with
      | none => rfl
  | .more first others => by
      cases second with
      | more first' others' => rw [Conveys.unique first' first, ConveysElements.unique others' others]

theorem ConveysMembers.unique {members : List (List Piece × Value)}
    {written written' : List (String × Json)} (second : ConveysMembers members written') :
    ConveysMembers members written → written = written'
  | .none => by
      cases second with
      | none => rfl
  | .more key first others => by
      cases second with
      | more key' first' others' =>
          rw [key.unique key', Conveys.unique first' first, ConveysMembers.unique others' others]

end

end SourceDiagnostics.Json
