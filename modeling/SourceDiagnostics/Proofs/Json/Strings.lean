import SourceDiagnostics.Proofs.Json.Readings

/-!
Literal names and strings are read as the grammar has them. A string that is skipped may be any
string of the grammar; one that is read as a text yields what its pieces spell, and is refused just
if they spell nothing.
-/

namespace SourceDiagnostics.Json

variable {Cause α : Type}

/-! Literal names. -/

theorem readLetters_eq_ok_iff (letters input : List Char)
    (left : { rest : List Char // rest.length ≤ input.length }) :
    (readLetters letters input : Except (ReadError Cause) _) = .ok left ↔
      input = letters ++ left.val := by
  induction letters generalizing input with
  | nil =>
      simp only [readLetters, Except.ok.injEq, List.nil_append]
      exact ⟨fun same => congrArg Subtype.val same, fun same => Subtype.ext same⟩
  | cons expected letters induction =>
      cases input with
      | nil => exact iff_of_false nofun nofun
      | cons first rest =>
          simp only [readLetters, List.cons_append, List.cons.injEq]
          by_cases same : first = expected
          · simp only [same, if_true, true_and]
            cases read : (readLetters letters rest : Except (ReadError Cause) _) with
            | error fault =>
                refine iff_of_false nofun fun spelled => ?_
                have bound : left.val.length ≤ rest.length := by simp [spelled]
                rw [(induction rest ⟨left.val, bound⟩).mpr spelled] at read
                cases read
            | ok inner =>
                have spelled := (induction rest inner).mp read
                constructor
                · rintro ⟨⟩
                  exact spelled
                · intro also
                  have same : inner.val = left.val :=
                    List.append_cancel_left (spelled.symm.trans also)
                  exact congrArg Except.ok (Subtype.ext same)
          · simp [same]

theorem yields_readName {rest input : List Char} (letters : List Char) (value : α)
    (shorter : rest.length < input.length) (result : α) (last : List Char) :
    Yields (readName letters value shorter : Reading Cause α input) result last ↔
      value = result ∧ rest = letters ++ last := by
  simp only [readName, yields_bind, readLetters_eq_ok_iff, yields_pure]
  constructor
  · rintro ⟨left, same, rfl, rfl⟩
    exact ⟨rfl, same⟩
  · rintro ⟨rfl, rfl⟩
    exact ⟨⟨last, by simp⟩, rfl, rfl, rfl⟩

/-! Escapes. -/

theorem mapM_hexValue?_eq_some_iff (first second third fourth : Char) (digits : List Nat) :
    [first, second, third, fourth].mapM hexValue? = some digits ↔
      ∃ a b c d, hexValue? first = some a ∧ hexValue? second = some b ∧
        hexValue? third = some c ∧ hexValue? fourth = some d ∧ digits = [a, b, c, d] := by
  simp only [List.mapM_cons, List.mapM_nil, Option.bind_eq_bind, Option.pure_def,
    Option.bind_some, Option.bind_eq_some_iff, Option.some.injEq]
  constructor
  · rintro ⟨a, first_value, _, ⟨b, second_value, _, ⟨c, third_value, _, ⟨d, fourth_value, rfl⟩,
      rfl⟩, rfl⟩, rfl⟩
    exact ⟨a, b, c, d, first_value, second_value, third_value, fourth_value, rfl⟩
  · rintro ⟨a, b, c, d, first_value, second_value, third_value, fourth_value, rfl⟩
    exact ⟨a, first_value, _, ⟨b, second_value, _, ⟨c, third_value, _, ⟨d, fourth_value, rfl⟩,
      rfl⟩, rfl⟩, rfl⟩

theorem yields_readHexFour (input : List Char) (unit : Nat) (rest : List Char) :
    Yields (readHexFour input : Reading Cause Nat input) unit rest ↔ IsHexFour input unit rest := by
  constructor
  · unfold readHexFour
    split
    · next first second third fourth tail =>
        split
        · next digits values =>
            rcases (mapM_hexValue?_eq_some_iff _ _ _ _ _).mp values with
              ⟨a, b, c, d, first_value, second_value, third_value, fourth_value, rfl⟩
            intro yields
            rcases (yields_ok _ _ _).mp yields with ⟨rfl, rfl⟩
            simpa using IsHexFour.of tail first_value second_value third_value fourth_value
        · exact fun yields => absurd yields (not_yields_error _ _ _)
    · split
      · exact fun yields => absurd yields (not_yields_error _ _ _)
      · exact fun yields => absurd yields (not_yields_error _ _ _)
  · rintro ⟨rest, first_value, second_value, third_value, fourth_value⟩
    have values := (mapM_hexValue?_eq_some_iff _ _ _ _ _).mpr
      ⟨_, _, _, _, first_value, second_value, third_value, fourth_value, rfl⟩
    simp [readHexFour, values]

theorem IsHexFour.shorter {text rest : List Char} {unit : Nat}
    (digits : IsHexFour text unit rest) : rest.length < text.length := by
  cases digits
  simp only [List.length_cons]
  omega

theorem IsPiece.shorter {text rest : List Char} {piece : Piece} (spelled : IsPiece text piece rest) :
    rest.length < text.length := by
  cases spelled with
  | plain => exact Nat.lt_succ_self _
  | short => exact Nat.lt_succ_of_lt (Nat.lt_succ_self _)
  | numeric digits => exact Nat.lt_succ_of_lt (Nat.lt_succ_of_lt digits.shorter)

theorem yields_readLowSurrogate (input : List Char) (low : Nat) (rest : List Char) :
    Yields (readLowSurrogate input : Reading Cause Nat input) low rest ↔
      IsPiece input (.unit low) rest ∧ isLowSurrogate low = true := by
  have escape (text : List Char) :
      Yields (readLowSurrogate ('\\' :: 'u' :: text) : Reading Cause Nat _) low rest ↔
        IsHexFour text low rest ∧ isLowSurrogate low = true := by
    simp only [readLowSurrogate, yields_bind_taken, yields_readHexFour, yields_if, yields_pure,
      not_yields_error, and_false, or_false, Taken.within]
    constructor
    · rintro ⟨_, _, digits, _, isLow, rfl, rfl⟩
      exact ⟨digits, isLow⟩
    · rintro ⟨digits, isLow⟩
      exact ⟨low, rest, digits, digits.shorter, isLow, rfl, rfl⟩
  constructor
  · intro yields
    have read := yields
    unfold readLowSurrogate at yields
    split at yields
    · rcases (escape _).mp read with ⟨digits, isLow⟩
      exact ⟨.numeric digits, isLow⟩
    all_goals exact absurd yields (not_yields_error _ _ _)
  · rintro ⟨⟨⟩, isLow⟩
    next digits => exact (escape _).mpr ⟨digits, isLow⟩

namespace Piece

theorem text?_unit {unit : Nat} (not_low : isLowSurrogate unit = false)
    (not_high : isHighSurrogate unit = false) (rest : List Piece) :
    text? (.unit unit :: rest) = (text? rest).map (Char.ofNat unit :: ·) := by
  rcases rest with _ | ⟨_ | _, rest⟩ <;> simp [text?, not_low, not_high]

theorem text?_low {unit : Nat} (isLow : isLowSurrogate unit = true) (rest : List Piece) :
    text? (.unit unit :: rest) = none := by
  rcases rest with _ | ⟨_ | _, rest⟩ <;> simp [text?, isLow]

theorem not_isLow_of_isHigh {unit : Nat} (isHigh : isHighSurrogate unit = true) :
    isLowSurrogate unit = false := by
  have below : unit < 0xDC00 := of_decide_eq_true (Bool.and_eq_true_iff.mp isHigh).right
  exact Bool.and_eq_false_imp.mpr fun above =>
    absurd (of_decide_eq_true above) (Nat.not_le.mpr below)

theorem text?_alone {high : Nat} (isHigh : isHighSurrogate high = true) {rest : List Piece}
    (alone : ∀ low others, rest = .unit low :: others → isLowSurrogate low = false) :
    text? (.unit high :: rest) = none := by
  rcases rest with _ | ⟨_ | low, rest⟩
  · simp [text?, isHigh]
  · simp [text?, isHigh]
  · simp [text?, isHigh, alone low rest rfl]

theorem text?_pair {high low : Nat} (isHigh : isHighSurrogate high = true)
    (isLow : isLowSurrogate low = true) (rest : List Piece) :
    text? (.unit high :: .unit low :: rest) =
      (text? rest).map (joinSurrogates high low :: ·) := by
  simp [text?, not_isLow_of_isHigh isHigh, isHigh, isLow]

theorem Spells.unique {pieces : List Piece} {text text' : String} (spells : Spells pieces text)
    (spells' : Spells pieces text') : text = text' :=
  String.toList_injective (Option.some.inj (spells.symm.trans spells'))

end Piece

theorem yields_readUnicodeEscape_skipped (text : List Char) (character : Char)
    (rest : List Char) :
    Yields (readUnicodeEscape .skipped text : Reading Cause Char text) character rest ↔
      ∃ unit, IsHexFour text unit rest ∧ Char.ofNat unit = character := by
  simp only [readUnicodeEscape, yields_bind_taken, yields_readHexFour, yields_pure, Taken.map]
  constructor
  · rintro ⟨unit, _, digits, _, same, rfl⟩
    exact ⟨unit, digits, same⟩
  · rintro ⟨unit, digits, same⟩
    exact ⟨unit, rest, digits, digits.shorter, same, rfl⟩

theorem yields_readUnicodeEscape_asText (text : List Char) (character : Char)
    (rest : List Char) :
    Yields (readUnicodeEscape .asText text : Reading Cause Char text) character rest ↔
      ∃ unit middle, IsHexFour text unit middle ∧ isLowSurrogate unit = false ∧
        (isHighSurrogate unit = false ∧ Char.ofNat unit = character ∧ middle = rest ∨
          isHighSurrogate unit = true ∧ ∃ low, IsPiece middle (.unit low) rest ∧
            isLowSurrogate low = true ∧ joinSurrogates unit low = character) := by
  simp only [readUnicodeEscape, yields_bind_taken, yields_readHexFour, yields_if, yields_pure,
    yields_readLowSurrogate, not_yields_error, and_false, false_or, Taken.map, Taken.within,
    Bool.not_eq_true]
  constructor
  · rintro ⟨unit, middle, digits, _, notLow, ⟨isHigh, low, _, ⟨spelled, isLow⟩, _, same, rfl⟩ |
      ⟨notHigh, same, rfl⟩⟩
    · exact ⟨unit, middle, digits, notLow, .inr ⟨isHigh, low, spelled, isLow, same⟩⟩
    · exact ⟨unit, middle, digits, notLow, .inl ⟨notHigh, same, rfl⟩⟩
  · rintro ⟨unit, middle, digits, notLow, ⟨notHigh, same, rfl⟩ | ⟨isHigh, low, spelled, isLow, same⟩⟩
    · exact ⟨unit, middle, digits, digits.shorter, notLow, .inr ⟨notHigh, same, rfl⟩⟩
    · exact ⟨unit, middle, digits, digits.shorter, notLow,
        .inl ⟨isHigh, low, rest, ⟨spelled, isLow⟩, spelled.shorter, same, rfl⟩⟩

theorem yields_readEscape_numeric (use : StringUse) (text : List Char) (character : Char)
    (rest : List Char) :
    Yields (readEscape use ('u' :: text) : Reading Cause Char _) character rest ↔
      Yields (readUnicodeEscape use text : Reading Cause Char text) character rest := by
  simp only [readEscape, yields_bind_taken, yields_pure, Taken.within]
  constructor
  · rintro ⟨_, _, yields, _, rfl, rfl⟩
    exact yields
  · exact fun yields => ⟨character, rest, yields, yields.shorter, rfl, rfl⟩

theorem yields_readEscape_short (use : StringUse) {letter : Char} (not_u : letter ≠ 'u')
    (text : List Char) (character : Char) (rest : List Char) :
    Yields (readEscape use (letter :: text) : Reading Cause Char _) character rest ↔
      shortEscape? letter = some character ∧ text = rest := by
  rw [readEscape]
  · cases short : shortEscape? letter with
    | none => simp
    | some found => simp
  · exact not_u

theorem exists_pieces_of_readEscape {use : StringUse} {text rest : List Char} {character : Char}
    (yields : Yields (readEscape use text : Reading Cause Char text) character rest) :
    ∃ pieces, (∀ others last, IsString rest others last →
        IsString ('\\' :: text) (pieces ++ others) last) ∧
      (use = .asText → ∀ others,
        Piece.text? (pieces ++ others) = (Piece.text? others).map (character :: ·)) := by
  cases text with
  | nil => exact absurd yields (not_yields_error _ _ _)
  | cons letter text =>
      by_cases numeric : letter = 'u'
      · subst numeric
        rw [yields_readEscape_numeric] at yields
        cases use with
        | skipped =>
            rcases (yields_readUnicodeEscape_skipped _ _ _).mp yields with ⟨unit, digits, -⟩
            exact ⟨[.unit unit], fun _ _ spelled => .more (.numeric digits) spelled, nofun⟩
        | asText =>
            rcases (yields_readUnicodeEscape_asText _ _ _).mp yields with ⟨unit, middle, digits,
              notLow, ⟨notHigh, rfl, rfl⟩ | ⟨isHigh, low, second, isLow, rfl⟩⟩
            · exact ⟨[.unit unit], fun _ _ spelled => .more (.numeric digits) spelled,
                fun _ others => Piece.text?_unit notLow notHigh others⟩
            · exact ⟨[.unit unit, .unit low],
                fun _ _ spelled => .more (.numeric digits) (.more second spelled),
                fun _ others => Piece.text?_pair isHigh isLow others⟩
      · rcases (yields_readEscape_short use numeric _ _ _).mp yields with ⟨short, rfl⟩
        exact ⟨[.character character], fun _ _ spelled => .more (.short _ short) spelled,
          fun _ _ => rfl⟩

/-! Strings. -/

theorem yields_readString_close (use : StringUse) (text characters rest : List Char) :
    Yields (readString use ('"' :: text) : Reading Cause (List Char) _) characters rest ↔
      characters = [] ∧ text = rest := by
  rw [readString, yields_ok, eq_comm]

theorem yields_readString_escape (use : StringUse) (text characters rest : List Char) :
    Yields (readString use ('\\' :: text) : Reading Cause (List Char) _) characters rest ↔
      ∃ first later others,
        Yields (readEscape use text : Reading Cause Char text) first later ∧
        Yields (readString use later : Reading Cause (List Char) later) others rest ∧
        first :: others = characters := by
  rw [readString]
  simp only [yields_bind_taken, yields_pure]
  constructor
  · rintro ⟨first, later, escape, _, others, _, string, _, same, rfl⟩
    exact ⟨first, later, others, escape, string, same⟩
  · rintro ⟨first, later, others, escape, string, same⟩
    exact ⟨first, later, escape, escape.shorter, others, rest, string, string.shorter, same, rfl⟩

theorem yields_readString_plain (use : StringUse) {first : Char} (no_quote : first ≠ '"')
    (no_backslash : first ≠ '\\') (text characters rest : List Char) :
    Yields (readString use (first :: text) : Reading Cause (List Char) _) characters rest ↔
      ' ' ≤ first ∧ ∃ others,
        Yields (readString use text : Reading Cause (List Char) text) others rest ∧
        first :: others = characters := by
  rw [readString]
  · simp only [yields_if, yields_bind_taken, yields_pure, not_yields_error, and_false, false_or,
      Char.not_lt]
    refine and_congr_right fun _ => ?_
    constructor
    · rintro ⟨others, _, string, _, same, rfl⟩
      exact ⟨others, string, same⟩
    · rintro ⟨others, string, same⟩
      exact ⟨others, rest, string, string.shorter, same, rfl⟩
  · exact no_quote
  · exact no_backslash

/-- A string that is read is one of the grammar, and the text that is read is what it spells. -/
theorem exists_pieces_of_readString {use : StringUse} {text characters rest : List Char}
    (yields : Yields (readString use text : Reading Cause (List Char) text) characters rest) :
    ∃ pieces, IsString text pieces rest ∧
      (use = .asText → Piece.text? pieces = some characters) := by
  match text with
  | [] =>
      rw [readString] at yields
      exact absurd yields (not_yields_error _ _ _)
  | first :: text =>
      by_cases quote : first = '"'
      · subst quote
        rcases (yields_readString_close _ _ _ _).mp yields with ⟨rfl, rfl⟩
        exact ⟨[], .close _, fun _ => rfl⟩
      by_cases backslash : first = '\\'
      · subst backslash
        rcases (yields_readString_escape _ _ _ _).mp yields with
          ⟨character, later, others, escape, string, rfl⟩
        have := escape.shorter
        rcases exists_pieces_of_readEscape escape with ⟨pieces, spelled, spells⟩
        rcases exists_pieces_of_readString string with ⟨more, spelled', spells'⟩
        refine ⟨pieces ++ more, spelled _ _ spelled', fun asText => ?_⟩
        rw [spells asText, spells' asText, Option.map_some]
      · rcases (yields_readString_plain _ quote backslash _ _ _).mp yields with
          ⟨no_control, others, string, rfl⟩
        rcases exists_pieces_of_readString string with ⟨more, spelled, spells⟩
        refine ⟨.character first :: more,
          .more (.plain _ no_control quote backslash) spelled, fun asText => ?_⟩
        rw [Piece.text?, spells asText, Option.map_some]
termination_by text.length

theorem IsPiece.yields_character {use : StringUse} {text later others rest : List Char}
    {character : Char} (spelled : IsPiece text (.character character) later)
    (string : Yields (readString use later : Reading Cause (List Char) later) others rest) :
    Yields (readString use text : Reading Cause (List Char) text) (character :: others) rest := by
  cases spelled with
  | plain _ no_control no_quote no_backslash =>
      exact (yields_readString_plain use no_quote no_backslash _ _ _).mpr
        ⟨no_control, others, string, rfl⟩
  | @short letter _ _ short =>
      have not_u : letter ≠ 'u' := fun same => by
        rw [same] at short
        cases short
      exact (yields_readString_escape _ _ _ _).mpr ⟨character, later, others,
        (yields_readEscape_short use not_u _ _ _).mpr ⟨short, rfl⟩, string, rfl⟩

theorem yields_readString_numeric {use : StringUse} {text later others rest : List Char}
    {character : Char}
    (escape : Yields (readUnicodeEscape use text : Reading Cause Char text) character later)
    (string : Yields (readString use later : Reading Cause (List Char) later) others rest) :
    Yields (readString use ('\\' :: 'u' :: text) : Reading Cause (List Char) _)
      (character :: others) rest :=
  (yields_readString_escape _ _ _ _).mpr
    ⟨character, later, others, (yields_readEscape_numeric use _ _ _).mpr escape, string, rfl⟩

theorem IsString.skipped {text rest : List Char} {pieces : List Piece}
    (spelled : IsString text pieces rest) :
    ∃ characters,
      Yields (readString .skipped text : Reading Cause (List Char) text) characters rest := by
  induction spelled with
  | close rest => exact ⟨[], (yields_readString_close _ _ _ _).mpr ⟨rfl, rfl⟩⟩
  | @more _ _ _ piece _ first _ induction =>
      rcases induction with ⟨others, string⟩
      cases piece with
      | character character => exact ⟨character :: others, first.yields_character string⟩
      | unit unit =>
          cases first with
          | numeric digits =>
              exact ⟨Char.ofNat unit :: others, yields_readString_numeric
                ((yields_readUnicodeEscape_skipped _ _ _).mpr ⟨unit, digits, rfl⟩) string⟩

theorem IsString.asText {text rest : List Char} {pieces : List Piece} {characters : List Char}
    (spelled : IsString text pieces rest) (spells : Piece.text? pieces = some characters) :
    Yields (readString .asText text : Reading Cause (List Char) text) characters rest := by
  induction pieces using Piece.text?.induct generalizing text characters with
  | case1 => 
      cases spelled
      cases spells
      exact (yields_readString_close _ _ _ _).mpr ⟨rfl, rfl⟩
  | case2 character pieces induction =>
      rw [Piece.text?, Option.map_eq_some_iff] at spells
      rcases spells with ⟨others, spells, rfl⟩
      cases spelled with
      | more first later => exact first.yields_character (induction later spells)
  | case3 unit pieces isLow =>
      rw [Piece.text?_low isLow] at spells
      cases spells
  | case4 high notLow isHigh low pieces isLow induction =>
      rw [Piece.text?_pair isHigh isLow, Option.map_eq_some_iff] at spells
      rcases spells with ⟨others, spells, rfl⟩
      rcases spelled with _ | ⟨⟨_, _⟩ | ⟨_, _⟩ | ⟨first⟩, later⟩
      rcases later with _ | ⟨second, later⟩
      refine yields_readString_numeric ?_ (induction later spells)
      exact (yields_readUnicodeEscape_asText _ _ _).mpr ⟨high, _, first,
        Bool.eq_false_iff.mpr notLow, .inr ⟨isHigh, low, second, isLow, rfl⟩⟩
  | case5 high notLow isHigh second pieces notSecond =>
      have alone : Piece.text? (.unit high :: .unit second :: pieces) = none :=
        Piece.text?_alone isHigh fun
          | _, _, rfl => Bool.eq_false_iff.mpr notSecond
      rw [alone] at spells
      cases spells
  | case6 high pieces notLow isHigh alone =>
      rw [Piece.text?_alone isHigh fun low others same => (alone low others same).elim] at spells
      cases spells
  | case7 unit pieces notLow notHigh induction =>
      rw [Bool.not_eq_true] at notLow notHigh
      rw [Piece.text?_unit notLow notHigh, Option.map_eq_some_iff] at spells
      rcases spells with ⟨others, spells, rfl⟩
      rcases spelled with _ | ⟨⟨_, _⟩ | ⟨_, _⟩ | ⟨first⟩, later⟩
      refine yields_readString_numeric ?_ (induction later spells)
      exact (yields_readUnicodeEscape_asText _ _ _).mpr
        ⟨unit, _, first, notLow, .inl ⟨notHigh, rfl, rfl⟩⟩

/-- A string that is read as a text is one that spells this text. -/
theorem yields_readString_asText (text characters rest : List Char) :
    Yields (readString .asText text : Reading Cause (List Char) text) characters rest ↔
      ∃ pieces, IsString text pieces rest ∧ Piece.text? pieces = some characters := by
  constructor
  · intro yields
    rcases exists_pieces_of_readString yields with ⟨pieces, spelled, spells⟩
    exact ⟨pieces, spelled, spells rfl⟩
  · rintro ⟨pieces, spelled, spells⟩
    exact spelled.asText spells

end SourceDiagnostics.Json
