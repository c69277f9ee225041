import SourceDiagnostics.Json.Record
import SourceDiagnostics.Proofs.Json.Values

/-!
What a reader makes of a text depends on the value that the text spells and on nothing else: a
reader has a shape, which says of each value what is made of it, if anything. Booleans, integers
and variants have theirs here.
-/

namespace SourceDiagnostics.Json

variable {α : Type}

/-- A reader accepts the values of a shape and no others, and makes of each what the shape says. -/
structure Reads (read : (input : List Char) → Reading Mismatch α input)
    (Shape : Value → α → Prop) : Prop where
  sound {text rest : List Char} {result : α} (yields : Yields (read text) result rest) :
    ∃ start value, Blanks text start ∧ IsValue start value rest ∧ Shape value result
  complete {text start rest : List Char} {value : Value} {result : α} (blanks : Blanks text start)
    (spelled : IsValue start value rest) (delimited : StartsIn delimiters rest)
    (fits : Shape value result) : Yields (read text) result rest

theorem Reads.congr {read : (input : List Char) → Reading Mismatch α input}
    {Shape Shape' : Value → α → Prop} (reads : Reads read Shape)
    (same : ∀ value result, Shape value result ↔ Shape' value result) : Reads read Shape' where
  sound yields := by
    rcases reads.sound yields with ⟨start, value, blanks, spelled, fits⟩
    exact ⟨start, value, blanks, spelled, (same value _).mp fits⟩
  complete blanks spelled delimited fits :=
    reads.complete blanks spelled delimited ((same _ _).mpr fits)

@[simp] theorem not_yields_wrongKind (expected : String) (input : List Char) (result : α)
    (rest : List Char) : ¬ Yields (wrongKind expected input) result rest := by
  rw [wrongKind, yields_bind]
  exact fun ⟨_, _, yields⟩ => not_yields_error _ _ _ yields

/-! Booleans. -/

def IsBoolean (value : Value) (result : Bool) : Prop :=
  value = .boolean result

theorem readBoolean_reads : Reads readBoolean IsBoolean where
  sound yields := by
    unfold readBoolean at yields
    split at yields
    · exact absurd yields (not_yields_error _ _ _)
    · next first later shorter next =>
        have blanks := (blanks_of_next? next).left
        split at yields
        · rcases (yields_readName _ _ _ _ _).mp yields with ⟨rfl, rfl⟩
          exact ⟨_, _, blanks, .yes _, rfl⟩
        · rcases (yields_readName _ _ _ _ _).mp yields with ⟨rfl, rfl⟩
          exact ⟨_, _, blanks, .no _, rfl⟩
        · exact absurd yields (not_yields_wrongKind _ _ _ _)
  complete blanks spelled _ fits := by
    cases fits
    cases spelled with
    | yes =>
        rcases next?_of_blanks blanks rfl with ⟨_, next⟩
        rw [readBoolean, next]
        exact (yields_readName _ _ _ _ _).mpr ⟨rfl, rfl⟩
    | no =>
        rcases next?_of_blanks blanks rfl with ⟨_, next⟩
        rw [readBoolean, next]
        exact (yields_readName _ _ _ _ _).mpr ⟨rfl, rfl⟩

/-! Integers. -/

/-- A number is written as an integer: without a point, without an exponent, and not as minus
zero. -/
structure NumberText.IsInteger (number : NumberText) (value : Int) : Prop where
  no_fraction : number.fraction = none
  no_exponent : number.exponent = none
  not_negative_zero : number.negative = true → value ≠ 0
  value_eq : value =
    if number.negative then -(Decimal.Literal.natural number.whole : Int)
    else Decimal.Literal.natural number.whole

def IsInt32 (value : Value) (result : Int32) : Prop :=
  ∃ number : NumberText, value = .number number ∧ number.IsInteger result.toInt

theorem NumberText.integer?_eq_some_iff (number : NumberText) {value : Int}
    (low : -0x8000000000000000 ≤ value) (high : value < 0x10000000000000000) :
    number.integer? = some value ↔ number.IsInteger value := by
  rcases number with ⟨negative, whole, fraction, exponent⟩
  have bound : Decimal.significandBound = 0x10000000000000000 := rfl
  cases fraction with
  | some digits => exact iff_of_false nofun fun integer => nomatch integer.no_fraction
  | none =>
      cases exponent with
      | some power => exact iff_of_false nofun fun integer => nomatch integer.no_exponent
      | none =>
          have integer : IsInteger ⟨negative, whole, none, none⟩ value ↔
              (negative = true → value ≠ 0) ∧ value =
                if negative then -(Decimal.Literal.natural whole : Int)
                else Decimal.Literal.natural whole :=
            ⟨fun ⟨_, _, nonzero, same⟩ => ⟨nonzero, same⟩,
              fun ⟨nonzero, same⟩ => ⟨rfl, rfl, nonzero, same⟩⟩
          rw [integer]
          simp only [integer?, Decimal.Literal.boundedNatural_eq, bound, Option.isSome_none,
            Bool.or_self, Bool.false_eq_true, if_false]
          generalize Decimal.Literal.natural whole = magnitude
          cases negative with
          | false =>
              simp only [Bool.false_eq_true, if_false, false_implies, true_and]
              split
              · rw [Option.some.injEq]
                omega
              · simp only [reduceCtorEq, false_iff]
                omega
          | true =>
              simp only [if_true, true_implies]
              split
              · simp only [reduceCtorEq, false_iff]
                omega
              · rw [Option.some.injEq]
                omega

theorem NumberText.int32_eq_ok_iff (number : NumberText) (result : Int32) :
    number.int32 = .ok result ↔ number.IsInteger result.toInt := by
  have low := result.le_toInt
  have high := result.toInt_lt
  rw [← number.integer?_eq_some_iff (by omega) (by omega), int32]
  constructor
  · split
    · next value integer =>
        split
        · next range =>
            rintro ⟨⟩
            rw [integer, Int32.toInt_ofInt_of_le range.left (Int.lt_add_one_of_le range.right)]
        · exact nofun
    · cases number.found <;> exact nofun
  · intro integer
    simp only [integer, result.minValue_le_toInt, result.toInt_le, and_self, if_true,
      Int32.ofInt_toInt]

theorem readInt32_reads : Reads readInt32 IsInt32 where
  sound yields := by
    unfold readInt32 at yields
    split at yields
    · exact absurd yields (not_yields_error _ _ _)
    · simp only [yields_if, yields_checked, not_yields_wrongKind, and_false, or_false] at yields
      rcases yields with ⟨_, number, read, integer⟩
      rcases isNumber_of_readNumber read with ⟨start, blanks, spelled⟩
      exact ⟨start, _, blanks, .number spelled, number, rfl,
        (number.int32_eq_ok_iff _).mp integer⟩
  complete blanks spelled delimited fits := by
    rcases fits with ⟨number, rfl, integer⟩
    rcases spelled with _ | _ | _ | spelled
    rcases spelled.exists_head with ⟨first, tail, rfl, starts⟩
    rcases next?_of_blanks blanks (not_isBlank_of_startsNumber starts) with ⟨_, next⟩
    have read := spelled.read blanks delimited (.truncated : ReadError Mismatch)
    rw [readInt32, next]
    simp only [starts, if_true, yields_checked]
    exact ⟨number, read, (number.int32_eq_ok_iff _).mpr integer⟩

/-! Variants. -/

/-- A value is the name of a variant, or an object with that name as its only key and with null. -/
def IsVariant (name : α → String) (value : Value) (result : α) : Prop :=
  ∃ pieces, Piece.Spells pieces (name result) ∧
    (value = .string pieces ∨ value = .object [(pieces, .null)])

theorem yields_readNull (text : List Char) (value : Unit) (rest : List Char) :
    Yields (readNull text) value rest ↔ Blanks text ('n' :: 'u' :: 'l' :: 'l' :: rest) := by
  unfold readNull
  constructor
  · intro yields
    split at yields
    · exact absurd yields (not_yields_error _ _ _)
    · next first later shorter next =>
        simp only [yields_if, yields_readName, not_yields_wrongKind, and_false, or_false] at yields
        rcases yields with ⟨rfl, -, rfl⟩
        exact (blanks_of_next? next).left
  · intro blanks
    rcases next?_of_blanks blanks rfl with ⟨_, next⟩
    rw [next]
    exact (yields_if _ _ _ _).mpr (.inl ⟨rfl, (yields_readName _ _ _ _ _).mpr ⟨rfl, rfl⟩⟩)

section Variants

variable {variants : List (String × α)} {name : α → String}

theorem variant_eq_ok_iff (names : ∀ text result,
    variants.lookup text = some result ↔ name result = text) (text : String) (result : α) :
    variant variants text = .ok result ↔ name result = text := by
  rw [← names, variant]
  cases variants.lookup text with
  | none => exact iff_of_false nofun nofun
  | some found => rw [Except.ok.injEq, Option.some.injEq]

theorem yields_readVariantName (names : ∀ text result,
    variants.lookup text = some result ↔ name result = text) (text : List Char) (result : α)
    (rest : List Char) :
    Yields (readVariantName variants text) result rest ↔
      ∃ pieces, IsString text pieces rest ∧ Piece.Spells pieces (name result) := by
  refine (yields_checked (readString .asText text)
    (fun characters => variant variants (String.ofList characters)) result rest).trans ?_
  simp only [yields_readString_asText, variant_eq_ok_iff names]
  constructor
  · rintro ⟨characters, ⟨pieces, spelled, spells⟩, same⟩
    exact ⟨pieces, spelled, by rw [Piece.Spells, spells, same, String.toList_ofList]⟩
  · rintro ⟨pieces, spelled, spells⟩
    exact ⟨_, ⟨pieces, spelled, spells⟩, String.ofList_toList.symm⟩

theorem readVariant_reads (names : ∀ text result,
    variants.lookup text = some result ↔ name result = text) :
    Reads (readVariant variants) (IsVariant name) where
  sound yields := by
    unfold readVariant at yields
    split at yields
    · exact absurd yields (not_yields_error _ _ _)
    · next first later shorter next =>
        have blanks := (blanks_of_next? next).left
        split at yields
        · rw [yields_resume, yields_readVariantName names] at yields
          rcases yields with ⟨pieces, spelled, spells⟩
          exact ⟨_, _, blanks, .string spelled, pieces, spells, .inl rfl⟩
        · simp only [yields_resume, readVariantObject, yields_andThen, yields_map,
            yields_readVariantName names, yields_readMark (rfl : isBlank '"' = false),
            yields_readMark (rfl : isBlank ':' = false), yields_readMark (rfl : isBlank '}' = false),
            yields_readNull] at yields
          rcases yields with ⟨_, quoted, before, _, _, named, ⟨pieces, spelled, spells⟩, _,
            _, assigned, between, _, _, after, null, _, _, close, rfl⟩
          exact ⟨_, _, blanks, .object (.last (.of before spelled between null) (.null _) close),
            pieces, spells, .inr rfl⟩
        · exact absurd yields (not_yields_error _ _ _)
  complete blanks spelled delimited fits := by
    rcases fits with ⟨pieces, spells, rfl | rfl⟩
    · rcases spelled with _ | _ | _ | _ | spelled
      rcases next?_of_blanks blanks rfl with ⟨_, next⟩
      rw [readVariant, next]
      simp only [yields_resume, yields_readVariantName names]
      exact ⟨pieces, spelled, spells⟩
    · cases spelled with
      | object members =>
          rcases next?_of_blanks blanks rfl with ⟨_, next⟩
          rcases members with ⟨⟨before, key, between, after⟩, ⟨⟩, close⟩ | ⟨_, _, _, ⟨⟩⟩
          have variant := (yields_readVariantName names _ _ _).mpr ⟨pieces, key, spells⟩
          rw [readVariant, next]
          refine (yields_resume _ _ _ _).mpr ?_
          refine ((yields_readMark rfl _).mpr before).andThen fun _ => variant.andThen fun _ => ?_
          refine ((yields_readMark rfl _).mpr between).andThen fun _ => ?_
          refine ((yields_readNull _ () _).mpr after).andThen fun _ => ?_
          exact (yields_map _ _ _ _).mpr ⟨(), (yields_readMark rfl _).mpr close, rfl⟩

end Variants

end SourceDiagnostics.Json
