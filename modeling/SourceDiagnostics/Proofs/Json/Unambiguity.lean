import SourceDiagnostics.Proofs.Json.Values

/-!
A text spells at most one value. Where a phrase ends is known already, since it can be skipped; so
it is left to see that what stands up to there can be read in one way only.
-/

namespace SourceDiagnostics.Json

/-! Strings. -/

theorem IsHexFour.unique {text rest rest' : List Char} {unit unit' : Nat}
    (first : IsHexFour text unit rest) (second : IsHexFour text unit' rest') :
    unit = unit' ∧ rest = rest' := by
  have read : Yields (readHexFour text : Reading Empty Nat text) unit rest :=
    (yields_readHexFour text unit rest).mpr first
  exact read.unique ((yields_readHexFour text unit' rest').mpr second)

theorem IsPiece.unique {text rest rest' : List Char} {piece piece' : Piece}
    (first : IsPiece text piece rest) (second : IsPiece text piece' rest') :
    piece = piece' ∧ rest = rest' := by
  cases first with
  | plain _ _ _ no_backslash =>
      cases second with
      | plain => exact ⟨rfl, rfl⟩
      | short => exact absurd rfl no_backslash
      | numeric => exact absurd rfl no_backslash
  | short _ short =>
      cases second with
      | plain _ _ _ no_backslash => exact absurd rfl no_backslash
      | short _ short' =>
          cases short.symm.trans short'
          exact ⟨rfl, rfl⟩
      | numeric => cases short
  | numeric digits =>
      cases second with
      | plain _ _ _ no_backslash => exact absurd rfl no_backslash
      | short _ short => cases short
      | numeric digits' =>
          rcases digits.unique digits' with ⟨rfl, rfl⟩
          exact ⟨rfl, rfl⟩

theorem not_isPiece_quote {text rest : List Char} {piece : Piece} :
    ¬ IsPiece ('"' :: text) piece rest := by
  rintro (⟨_, _, no_quote, _⟩ | _ | _)
  exact no_quote rfl

theorem IsString.unique {text rest rest' : List Char} {pieces pieces' : List Piece}
    (first : IsString text pieces rest) (second : IsString text pieces' rest') :
    pieces = pieces' ∧ rest = rest' := by
  induction first generalizing pieces' with
  | close =>
      cases second with
      | close => exact ⟨rfl, rfl⟩
      | more piece => exact absurd piece not_isPiece_quote
  | more piece _ induction =>
      cases second with
      | close => exact absurd piece not_isPiece_quote
      | more piece' others =>
          rcases piece.unique piece' with ⟨rfl, rfl⟩
          rcases induction others with ⟨rfl, rfl⟩
          exact ⟨rfl, rfl⟩

/-! Numbers. -/

theorem IsNumber.unique {text rest rest' : List Char} {number number' : NumberText}
    (first : IsNumber text number rest) (second : IsNumber text number' rest')
    (delimited : StartsIn delimiters rest) (delimited' : StartsIn delimiters rest') :
    number = number' ∧ rest = rest' := by
  have cut : ReadError Empty := .malformed
  exact (first.read (.none text) delimited cut).unique (second.read (.none text) delimited' cut)

theorem not_isNumber_cons {first : Char} {text rest : List Char} {number : NumberText}
    (no : startsNumber first = false) : ¬ IsNumber (first :: text) number rest := fun spelled => by
  rcases spelled.exists_head with ⟨_, _, ⟨⟩, starts⟩
  rw [no] at starts
  cases starts

/-! Values. -/

theorem IsValue.start_unique {text start start' rest rest' : List Char} {value value' : Value}
    (blanks : Blanks text start) (spelled : IsValue start value rest)
    (blanks' : Blanks text start') (spelled' : IsValue start' value' rest') : start = start' := by
  rcases spelled.exists_head with ⟨first, tail, rfl, ink, -⟩
  rcases spelled'.exists_head with ⟨first', tail', rfl, ink', -⟩
  rcases (blanks.cons_iff ink ink').mp blanks' with ⟨rfl, rfl⟩
  rfl

theorem IsValue.next_unique {text after after' rest rest' : List Char} {value value' : Value}
    {mark mark' : Char} (spelled : IsValue text value after) (next : Blanks after (mark :: rest))
    (spelled' : IsValue text value' after') (next' : Blanks after' (mark' :: rest'))
    (isMark : mark ∈ [',', ']', '}']) (isMark' : mark' ∈ [',', ']', '}']) :
    after = after' ∧ mark = mark' ∧ rest = rest' := by
  -- Either way the text is skipped up to a mark, and skipping leaves one rest only.
  have marks : ∀ mark ∈ [',', ']', '}'], mark ∈ delimiters ∧ isBlank mark = false := by
    simp [delimiters, isBlank]
  have skipped : Yields (skipValue text : Reading Empty Unit text) () after :=
    spelled.skip (.none text) (next.delimited (marks mark isMark).left)
  have skipped' : Yields (skipValue text : Reading Empty Unit text) () after' :=
    spelled'.skip (.none text) (next'.delimited (marks mark' isMark').left)
  rcases skipped.unique skipped' with ⟨-, rfl⟩
  exact ⟨rfl, (next.cons_iff (marks mark isMark).right (marks mark' isMark').right).mp next'⟩

theorem IsKey.unique {text start start' rest rest' : List Char} {pieces pieces' : List Piece}
    {value value' : Value} (key : IsKey text pieces start) (member : IsValue start value rest)
    (key' : IsKey text pieces' start') (member' : IsValue start' value' rest') :
    pieces = pieces' ∧ start = start' := by
  rcases key with ⟨before, string, between, after⟩
  rcases key' with ⟨before', string', between', after'⟩
  rcases (before.cons_iff rfl rfl).mp before' with ⟨-, rfl⟩
  rcases string.unique string' with ⟨rfl, rfl⟩
  rcases (between.cons_iff rfl rfl).mp between' with ⟨-, rfl⟩
  exact ⟨rfl, member.start_unique after after' member'⟩

mutual

theorem IsValue.unique {text rest rest' : List Char} {value value' : Value}
    (delimited : StartsIn delimiters rest) (delimited' : StartsIn delimiters rest')
    (second : IsValue text value' rest') : IsValue text value rest → value = value' ∧ rest = rest'
  | .null _ => by
      cases second with
      | null => exact ⟨rfl, rfl⟩
      | number spelled => exact absurd spelled (not_isNumber_cons rfl)
  | .yes _ => by
      cases second with
      | yes => exact ⟨rfl, rfl⟩
      | number spelled => exact absurd spelled (not_isNumber_cons rfl)
  | .no _ => by
      cases second with
      | no => exact ⟨rfl, rfl⟩
      | number spelled => exact absurd spelled (not_isNumber_cons rfl)
  | .number spelled => by
      cases second with
      | number spelled' =>
          rcases spelled.unique spelled' delimited delimited' with ⟨rfl, rfl⟩
          exact ⟨rfl, rfl⟩
      | _ => exact absurd spelled (not_isNumber_cons rfl)
  | .string spelled => by
      cases second with
      | string spelled' =>
          rcases spelled.unique spelled' with ⟨rfl, rfl⟩
          exact ⟨rfl, rfl⟩
      | number spelled => exact absurd spelled (not_isNumber_cons rfl)
  | .emptyArray close => by
      cases second with
      | emptyArray close' =>
          rcases (close.cons_iff rfl rfl).mp close' with ⟨-, rfl⟩
          exact ⟨rfl, rfl⟩
      | array spelled => exact absurd close (spelled.not_close _)
      | number spelled => exact absurd spelled (not_isNumber_cons rfl)
  | .array spelled => by
      cases second with
      | emptyArray close => exact absurd close (spelled.not_close _)
      | array spelled' =>
          rcases IsElements.unique spelled' spelled with ⟨rfl, rfl⟩
          exact ⟨rfl, rfl⟩
      | number spelled => exact absurd spelled (not_isNumber_cons rfl)
  | .emptyObject close => by
      cases second with
      | emptyObject close' =>
          rcases (close.cons_iff rfl rfl).mp close' with ⟨-, rfl⟩
          exact ⟨rfl, rfl⟩
      | object spelled => exact absurd close (spelled.not_close _)
      | number spelled => exact absurd spelled (not_isNumber_cons rfl)
  | .object spelled => by
      cases second with
      | emptyObject close => exact absurd close (spelled.not_close _)
      | object spelled' =>
          rcases IsMembers.unique spelled' spelled with ⟨rfl, rfl⟩
          exact ⟨rfl, rfl⟩
      | number spelled => exact absurd spelled (not_isNumber_cons rfl)

theorem IsElements.unique {text rest rest' : List Char} {elements elements' : List Value}
    (second : IsElements text elements' rest') :
    IsElements text elements rest → elements = elements' ∧ rest = rest'
  | .last blanks element close => by
      cases second with
      | last blanks' element' close' =>
          cases element.start_unique blanks blanks' element'
          rcases element.next_unique close element' close' (by decide) (by decide) with ⟨rfl, -, rfl⟩
          have delimited := close.delimited (by decide)
          rcases IsValue.unique delimited delimited element' element with ⟨rfl, -⟩
          exact ⟨rfl, rfl⟩
      | more blanks' element' comma' =>
          cases element.start_unique blanks blanks' element'
          rcases element.next_unique close element' comma' (by decide) (by decide) with ⟨-, same, -⟩
          cases same
  | .more blanks element comma others => by
      cases second with
      | last blanks' element' close' =>
          cases element.start_unique blanks blanks' element'
          rcases element.next_unique comma element' close' (by decide) (by decide) with ⟨-, same, -⟩
          cases same
      | more blanks' element' comma' others' =>
          cases element.start_unique blanks blanks' element'
          rcases element.next_unique comma element' comma' (by decide) (by decide) with ⟨rfl, -, rfl⟩
          have delimited := comma.delimited (by decide)
          rcases IsValue.unique delimited delimited element' element with ⟨rfl, -⟩
          rcases IsElements.unique others' others with ⟨rfl, rfl⟩
          exact ⟨rfl, rfl⟩

theorem IsMembers.unique {text rest rest' : List Char}
    {members members' : List (List Piece × Value)} (second : IsMembers text members' rest') :
    IsMembers text members rest → members = members' ∧ rest = rest'
  | .last key member close => by
      cases second with
      | last key' member' close' =>
          rcases key.unique member key' member' with ⟨rfl, rfl⟩
          rcases member.next_unique close member' close' (by decide) (by decide) with ⟨rfl, -, rfl⟩
          have delimited := close.delimited (by decide)
          rcases IsValue.unique delimited delimited member' member with ⟨rfl, -⟩
          exact ⟨rfl, rfl⟩
      | more key' member' comma' =>
          rcases key.unique member key' member' with ⟨rfl, rfl⟩
          rcases member.next_unique close member' comma' (by decide) (by decide) with ⟨-, same, -⟩
          cases same
  | .more key member comma others => by
      cases second with
      | last key' member' close' =>
          rcases key.unique member key' member' with ⟨rfl, rfl⟩
          rcases member.next_unique comma member' close' (by decide) (by decide) with ⟨-, same, -⟩
          cases same
      | more key' member' comma' others' =>
          rcases key.unique member key' member' with ⟨rfl, rfl⟩
          rcases member.next_unique comma member' comma' (by decide) (by decide) with ⟨rfl, -, rfl⟩
          have delimited := comma.delimited (by decide)
          rcases IsValue.unique delimited delimited member' member with ⟨rfl, -⟩
          rcases IsMembers.unique others' others with ⟨rfl, rfl⟩
          exact ⟨rfl, rfl⟩

end

/-- A text spells at most one value. -/
theorem IsText.unique {text : List Char} {value value' : Value} (first : IsText text value)
    (second : IsText text value') : value = value' := by
  rcases first with ⟨before, spelled, after⟩
  rcases second with ⟨before', spelled', after'⟩
  cases spelled.start_unique before before' spelled'
  exact (IsValue.unique (after.startsIn_delimiters nofun) (after'.startsIn_delimiters nofun)
    spelled' spelled).left

end SourceDiagnostics.Json
