import SourceDiagnostics.Proofs.Json.Readings

/-!
Numbers are read as the grammar has them. A number ends where it can go on no longer; in a JSON
text that is at a blank, a comma, a closing bracket or the end.
-/

namespace SourceDiagnostics.Json

variable {Cause : Type}

/-- The text is at its end or goes on with one of certain characters. -/
def StartsIn (allowed : List Char) (rest : List Char) : Prop :=
  ∀ first ∈ rest.head?, first ∈ allowed

def delimiters : List Char := [' ', '\n', '\t', '\r', ',', ']', '}']

theorem StartsIn.of_cons {allowed : List Char} {first : Char} (member : first ∈ allowed)
    (rest : List Char) : StartsIn allowed (first :: rest) := by
  rintro _ ⟨⟩
  exact member

theorem StartsIn.mono {allowed others rest : List Char} (starts : StartsIn allowed rest)
    (subset : allowed ⊆ others) : StartsIn others rest :=
  fun first next => subset (starts first next)

theorem StartsIn.rejects {allowed rest : List Char} (starts : StartsIn allowed rest)
    {Rejected : Char → Prop} [DecidablePred Rejected]
    (apart : (allowed.all fun first => ¬ Rejected first) = true) :
    ∀ first ∈ rest.head?, ¬ Rejected first :=
  fun first next => of_decide_eq_true (List.all_eq_true.mp apart first (starts first next))

theorem Blanks.startsIn_delimiters {text rest : List Char} (blanks : Blanks text rest)
    (delimited : StartsIn delimiters rest) : StartsIn delimiters text := by
  cases blanks with
  | none => exact delimited
  | more blank _ =>
      refine .of_cons ?_ _
      simp only [isBlank, Bool.or_eq_true, decide_eq_true_eq] at blank
      rcases blank with ((rfl | rfl) | rfl) | rfl
      all_goals decide

/-! Digits. -/

def NoDigit (rest : List Char) : Prop :=
  ∀ first ∈ rest.head?, ¬ first.isDigit = true

theorem isDigits_takeWhile {first : Char} (digit : first.isDigit = true) (rest : List Char) :
    IsDigits (first :: rest) (digitValue first :: (rest.takeWhile Char.isDigit).map digitValue)
      (rest.dropWhile Char.isDigit) := by
  induction rest generalizing first with
  | nil => exact .one [] digit
  | cons second rest induction =>
      by_cases another : second.isDigit = true
      · rw [List.takeWhile_cons_of_pos another, List.dropWhile_cons_of_pos another]
        exact .more digit (induction another)
      · rw [List.takeWhile_cons_of_neg another, List.dropWhile_cons_of_neg another]
        exact .one _ digit

theorem noDigit_dropWhile (rest : List Char) : NoDigit (rest.dropWhile Char.isDigit) :=
  fun first next => by
    have stopped := List.head?_dropWhile_not Char.isDigit rest
    rw [next] at stopped
    exact Bool.eq_false_iff.mp stopped

theorem NoDigit.takeWhile_eq {rest : List Char} (stops : NoDigit rest) :
    rest.takeWhile Char.isDigit = [] ∧ rest.dropWhile Char.isDigit = rest := by
  cases rest with
  | nil => exact ⟨rfl, rfl⟩
  | cons first rest =>
      have no := stops first rfl
      exact ⟨List.takeWhile_cons_of_neg no, List.dropWhile_cons_of_neg no⟩

theorem IsDigits.eq_takeWhile {text rest : List Char} {digits : List Nat}
    (spelled : IsDigits text digits rest) (stops : NoDigit rest) :
    ∃ first tail, text = first :: tail ∧ first.isDigit = true ∧
      digits = digitValue first :: (tail.takeWhile Char.isDigit).map digitValue ∧
      rest = tail.dropWhile Char.isDigit := by
  induction spelled with
  | @one first rest digit =>
      rcases stops.takeWhile_eq with ⟨none, all⟩
      exact ⟨first, rest, rfl, digit, by rw [none, List.map_nil], all.symm⟩
  | @more first _ _ _ digit _ induction =>
      rcases induction stops with ⟨second, tail, rfl, another, rfl, rfl⟩
      refine ⟨first, second :: tail, rfl, digit, ?_, ?_⟩
      · rw [List.takeWhile_cons_of_pos another, List.map_cons]
      · rw [List.dropWhile_cons_of_pos another]

theorem yields_readDigits (cut : ReadError Cause) (text : List Char) (digits : List Nat)
    (rest : List Char) :
    Yields (readDigits cut text) digits rest ↔ IsDigits text digits rest ∧ NoDigit rest := by
  constructor
  · intro yields
    cases text with
    | nil => exact absurd yields (not_yields_error _ _ _)
    | cons first text =>
        simp only [readDigits, yields_if, yields_ok, not_yields_error, and_false, or_false] at yields
        rcases yields with ⟨digit, rfl, rfl⟩
        exact ⟨isDigits_takeWhile digit text, noDigit_dropWhile text⟩
  · rintro ⟨spelled, stops⟩
    rcases spelled.eq_takeWhile stops with ⟨first, tail, rfl, digit, rfl, rfl⟩
    simp [readDigits, digit]

theorem yields_readWhole (cut : ReadError Cause) (text : List Char) (digits : List Nat)
    (rest : List Char) :
    Yields (readWhole cut text) digits rest ↔ IsWhole text digits rest ∧ NoDigit rest := by
  simp only [readWhole, yields_bind_taken, yields_readDigits, yields_if, not_yields_error,
    and_false, false_or, yields_pure, Classical.not_and_iff_not_or_not, Classical.not_not]
  constructor
  · rintro ⟨_, _, ⟨run, stops⟩, _, alone, rfl, rfl⟩
    exact ⟨⟨run, fun zero => alone.resolve_left (· zero)⟩, stops⟩
  · rintro ⟨⟨run, alone⟩, stops⟩
    exact ⟨digits, rest, ⟨run, stops⟩, ((yields_readDigits cut _ _ _).mpr ⟨run, stops⟩).shorter,
      Classical.or_iff_not_imp_left.mpr fun zero => alone (Classical.not_not.mp zero), rfl, rfl⟩

/-! Fraction and exponent, which may be absent. -/

def Leaves {α : Type} {input : List Char}
    (reading : Except (ReadError Cause) (α × { rest : List Char // rest.length ≤ input.length }))
    (value : α) (rest : List Char) : Prop :=
  ∃ bound, reading = .ok (value, ⟨rest, bound⟩)

theorem isFraction_of_readFraction {cut : ReadError Cause} {text rest : List Char}
    {fraction : Option (List Nat)} (leaves : Leaves (readFraction cut text) fraction rest) :
    IsFraction text fraction rest := by
  rcases leaves with ⟨bound, read⟩
  unfold readFraction at read
  split at read
  · next text =>
      cases digits : readDigits cut text with
      | error fault =>
          rw [digits] at read
          cases read
      | ok taken =>
          rw [digits] at read
          cases read
          exact .point ((yields_readDigits cut text _ _).mp ⟨taken.shorter, digits⟩).left
  · cases read
    exact .none _

theorem IsFraction.read {text rest : List Char} {fraction : Option (List Nat)}
    (spelled : IsFraction text fraction rest) (noDigit : NoDigit rest)
    (noPoint : ∀ first ∈ rest.head?, first ≠ '.') (cut : ReadError Cause) :
    Leaves (readFraction cut text) fraction rest := by
  cases spelled with
  | point run =>
      rcases (yields_readDigits cut _ _ _).mpr ⟨run, noDigit⟩ with ⟨shorter, digits⟩
      exact ⟨Nat.le_succ_of_le (Nat.le_of_lt shorter), by rw [readFraction, digits]; rfl⟩
  | none =>
      refine ⟨Nat.le_refl _, ?_⟩
      rw [readFraction]
      rintro _ rfl
      exact noPoint '.' rfl rfl

theorem isExponentSign_exponentSign (text : List Char) :
    IsExponentSign text (exponentSign text).1 (exponentSign text).2.val := by
  unfold exponentSign
  split
  · exact .minus _
  · exact .plus _
  · exact .none _

theorem IsExponentSign.read {text unsigned : List Char} {negative : Bool}
    (spelled : IsExponentSign text negative unsigned)
    (digit : ∃ first tail, unsigned = first :: tail ∧ first.isDigit = true) :
    ∃ bound, exponentSign text = (negative, ⟨unsigned, bound⟩) := by
  cases spelled with
  | minus => exact ⟨_, rfl⟩
  | plus => exact ⟨_, rfl⟩
  | none =>
      rcases digit with ⟨first, tail, rfl, digit⟩
      refine ⟨Nat.le_refl _, ?_⟩
      rw [exponentSign]
      · rintro _ ⟨⟩
        cases digit
      · rintro _ ⟨⟩
        cases digit

theorem isExponent_of_readExponent {cut : ReadError Cause} {text rest : List Char}
    {exponent : Option (Bool × List Nat)} (leaves : Leaves (readExponent cut text) exponent rest) :
    IsExponent text exponent rest := by
  rcases leaves with ⟨bound, read⟩
  unfold readExponent at read
  split at read
  · cases read
    exact .none _
  · next first text =>
      split at read
      · next letter =>
          have sign := isExponentSign_exponentSign text
          cases digits : readDigits cut (exponentSign text).2.val with
          | error fault =>
              simp only [digits] at read
              cases read
          | ok taken =>
              simp only [digits] at read
              cases read
              exact .power letter sign
                ((yields_readDigits cut _ _ _).mp ⟨taken.shorter, digits⟩).left
      · cases read
        exact .none _

theorem IsExponent.read {text rest : List Char} {exponent : Option (Bool × List Nat)}
    (spelled : IsExponent text exponent rest) (noDigit : NoDigit rest)
    (noLetter : ∀ first ∈ rest.head?, ¬ (first = 'e' ∨ first = 'E')) (cut : ReadError Cause) :
    Leaves (readExponent cut text) exponent rest := by
  cases spelled with
  | power letter sign run =>
      rcases run.eq_takeWhile noDigit with ⟨head, tail, same, digit, -, -⟩
      rcases sign.read ⟨head, tail, same, digit⟩ with ⟨bound, signs⟩
      rcases (yields_readDigits cut _ _ _).mpr ⟨run, noDigit⟩ with ⟨shorter, digits⟩
      refine ⟨by simp only [List.length_cons]; omega, ?_⟩
      rw [readExponent, if_pos letter, signs]
      dsimp only
      rw [digits]
      rfl
  | none =>
      cases text with
      | nil => exact ⟨Nat.le_refl _, rfl⟩
      | cons first rest => exact ⟨Nat.le_refl _, if_neg (noLetter first rfl)⟩

/-! Numbers. -/

theorem isNumber_of_readUnsigned {negative : Bool} {cut : ReadError Cause}
    {text rest : List Char} {number : NumberText}
    (yields : Yields (readUnsigned negative cut text) number rest) :
    number.negative = negative ∧ ∃ pointed scaled, IsWhole text number.whole pointed ∧
      IsFraction pointed number.fraction scaled ∧ IsExponent scaled number.exponent rest := by
  simp only [readUnsigned, yields_bind_taken] at yields
  rcases yields with ⟨whole, pointed, wholeRead, _, yields⟩
  rw [yields_bind] at yields
  rcases yields with ⟨⟨fraction, scaled, _⟩, fractionRead, yields⟩
  rw [yields_bind] at yields
  rcases yields with ⟨⟨exponent, last, _⟩, exponentRead, yields⟩
  rcases (yields_pure _ _ _).mp yields with ⟨rfl, rfl⟩
  exact ⟨rfl, pointed, scaled, ((yields_readWhole cut _ _ _).mp wholeRead).left,
    isFraction_of_readFraction ⟨_, fractionRead⟩, isExponent_of_readExponent ⟨_, exponentRead⟩⟩

/-! Each part of a number ends where the next one begins. -/

theorem IsExponent.startsIn {text rest : List Char} {exponent : Option (Bool × List Nat)}
    (spelled : IsExponent text exponent rest) (delimited : StartsIn delimiters rest) :
    StartsIn ('e' :: 'E' :: delimiters) text := by
  cases spelled with
  | power letter =>
      rcases letter with rfl | rfl
      · exact .of_cons (by decide) _
      · exact .of_cons (by decide) _
  | none => exact delimited.mono (by decide)

theorem IsFraction.startsIn {text rest : List Char} {fraction : Option (List Nat)}
    (spelled : IsFraction text fraction rest)
    (ended : StartsIn ('e' :: 'E' :: delimiters) rest) :
    StartsIn ('.' :: 'e' :: 'E' :: delimiters) text := by
  cases spelled with
  | point => exact .of_cons (by decide) _
  | none => exact ended.mono (by decide)

theorem yields_readUnsigned (cut : ReadError Cause) {text pointed scaled rest : List Char}
    {number : NumberText} (whole : IsWhole text number.whole pointed)
    (fraction : IsFraction pointed number.fraction scaled)
    (exponent : IsExponent scaled number.exponent rest) (delimited : StartsIn delimiters rest) :
    Yields (readUnsigned number.negative cut text) number rest := by
  -- From the back: what follows a part cannot be taken for more of that part.
  have scaledStart := exponent.startsIn delimited
  have pointedStart := fraction.startsIn scaledStart
  have wholeRead := (yields_readWhole cut _ _ _).mpr ⟨whole, pointedStart.rejects (by decide)⟩
  rcases fraction.read (scaledStart.rejects (by decide)) (scaledStart.rejects (by decide)) cut with
    ⟨_, fractionRead⟩
  rcases exponent.read (delimited.rejects (by decide)) (delimited.rejects (by decide)) cut with
    ⟨_, exponentRead⟩
  rw [readUnsigned, yields_bind_taken]
  refine ⟨number.whole, pointed, wholeRead, wholeRead.shorter, ?_⟩
  rw [yields_bind]
  refine ⟨_, fractionRead, ?_⟩
  rw [yields_bind]
  exact ⟨_, exponentRead, (yields_pure _ _ _).mpr ⟨rfl, rfl⟩⟩

theorem isNumber_of_readNumber {cut : ReadError Cause} {text rest : List Char}
    {number : NumberText} (yields : Yields (readNumber cut text) number rest) :
    ∃ start, Blanks text start ∧ IsNumber start number rest := by
  unfold readNumber at yields
  split at yields
  · next unsigned shorter next =>
      rw [yields_resume] at yields
      rcases isNumber_of_readUnsigned yields with
        ⟨negative, pointed, scaled, whole, fraction, exponent⟩
      exact ⟨'-' :: unsigned, (blanks_of_next? next).left,
        .of (negative ▸ .minus unsigned) whole fraction exponent⟩
  · simp only [yields_bind_taken, yields_pure, Taken.within] at yields
    rcases yields with ⟨_, _, yields, _, rfl, rfl⟩
    rcases isNumber_of_readUnsigned yields with
      ⟨positive, pointed, scaled, whole, fraction, exponent⟩
    exact ⟨skipBlank text, blanks_skipBlank text, .of (positive ▸ .none _) whole fraction exponent⟩

theorem IsDigits.exists_head {text rest : List Char} {digits : List Nat}
    (spelled : IsDigits text digits rest) :
    ∃ first tail, text = first :: tail ∧ first.isDigit = true := by
  cases spelled with
  | one rest digit => exact ⟨_, rest, rfl, digit⟩
  | more digit => exact ⟨_, _, rfl, digit⟩

theorem IsNumber.exists_head {text rest : List Char} {number : NumberText}
    (spelled : IsNumber text number rest) :
    ∃ first tail, text = first :: tail ∧ startsNumber first = true := by
  rcases spelled with ⟨sign, whole, -, -⟩
  rcases number with ⟨negative, digits, fraction, exponent⟩
  cases sign with
  | minus => exact ⟨'-', _, rfl, rfl⟩
  | none =>
      rcases whole.run.exists_head with ⟨first, tail, same, digit⟩
      exact ⟨first, tail, same, by simp [startsNumber, digit]⟩

theorem not_isBlank_of_startsNumber {first : Char} (starts : startsNumber first = true) :
    isBlank first = false := by
  refine Bool.eq_false_iff.mpr fun blank => ?_
  simp only [isBlank, Bool.or_eq_true, decide_eq_true_eq] at blank
  rcases blank with ((rfl | rfl) | rfl) | rfl
  all_goals cases starts

theorem IsNumber.read {text start rest : List Char} {number : NumberText}
    (blanks : Blanks text start) (spelled : IsNumber start number rest)
    (delimited : StartsIn delimiters rest) (cut : ReadError Cause) :
    Yields (readNumber cut text) number rest := by
  rcases spelled.exists_head with ⟨first, tail, rfl, starts⟩
  have ink := not_isBlank_of_startsNumber starts
  rcases next?_of_blanks blanks ink with ⟨shorter, next⟩
  rcases spelled with ⟨sign, whole, fraction, exponent⟩
  have unsigned := yields_readUnsigned cut whole fraction exponent delimited
  rcases number with ⟨negative, digits, fraction, exponent⟩
  unfold readNumber
  cases sign with
  | minus =>
      rw [next]
      exact (yields_resume _ _ _ _).mpr unsigned
  | none =>
      split
      · next _ _ minus =>
          rw [next] at minus
          cases minus
          rcases whole.run.exists_head with ⟨_, _, ⟨⟩, digit⟩
          cases digit
      · rw [← skipBlank_of_blanks blanks ink] at unsigned
        rw [yields_bind_taken]
        exact ⟨_, rest, unsigned, unsigned.shorter, (yields_pure _ _ _).mpr ⟨rfl, rfl⟩⟩

end SourceDiagnostics.Json
