/-!
The decimal text of a double: the fewest digits that read back as the same double, and of those
the nearest to its value. The digits are found in exact arithmetic on naturals. A double is
`mantissa · 2 ^ scale`; the reals that round to it form an interval around it, and a grid of
decimals `count · 10 ^ place` is fine enough as soon as one of the two grid points next to the
double lies in that interval. The coarsest such grid gives the digits.
-/

namespace SourceDiagnostics.Decimal

/-- A positive double as a mantissa and a power of two. `lowest` says that the mantissa is the
least of its binade, so that the neighbour below is only half as far away as the one above. -/
structure Binary where
  mantissa : Nat
  scale : Int
  lowest : Bool
  deriving DecidableEq, Repr

def hiddenBit : Nat := 0x10000000000000

def Binary.ofFloat (value : Float) : Binary :=
  let bits := value.toBits.toNat
  let exponent : Nat := bits / hiddenBit % 0x800
  let fraction := bits % hiddenBit
  if exponent = 0 then ⟨fraction, -1074, false⟩
  else ⟨hiddenBit + fraction, (exponent : Int) - 1075, fraction = 0 && exponent != 1⟩

/-- A positive decimal, `count · 10 ^ place`. -/
structure Digits where
  count : Nat
  place : Int
  deriving DecidableEq, Repr

namespace Binary

/-- Everything near a double is measured in quarters of its last binary place: the double itself,
and the ends of the interval of reals that round to it. -/
def quarters (number : Binary) : Nat :=
  4 * number.mantissa

def lowerEnd (number : Binary) : Nat :=
  if number.lowest then 4 * number.mantissa - 1 else 4 * number.mantissa - 2

def upperEnd (number : Binary) : Nat :=
  4 * number.mantissa + 2

/-- A quarter of the last place and a step of the grid at `place`, both as multiples of one unit. -/
def units (number : Binary) (place : Int) : Nat × Nat :=
  let scale := number.scale - 2
  (Nat.pow 2 scale.toNat * Nat.pow 10 (-place).toNat,
    Nat.pow 2 (-scale).toNat * Nat.pow 10 place.toNat)

/-- Whether a grid point lies in the interval. A double with an even mantissa also owns the ends. -/
def owns (number : Binary) (place : Int) (count : Nat) : Bool :=
  let (quarter, step) := number.units place
  let low := number.lowerEnd * quarter
  let high := number.upperEnd * quarter
  let point := count * step
  if number.mantissa % 2 = 0 then low ≤ point && point ≤ high else low < point && point < high

/-- The grid point at `place` that stands for the double, if one of the two next to it does. If
both do, it is the nearer one, and of two equally near the even one. -/
def onGrid? (number : Binary) (place : Int) : Option Digits :=
  let (quarter, step) := number.units place
  let below := number.quarters * quarter / step
  let remainder := number.quarters * quarter % step
  let belowIsNearer :=
    2 * remainder < step || (2 * remainder == step && below % 2 == 0)
  match number.owns place below, number.owns place (below + 1) with
  | true, true => some ⟨if belowIsNearer then below else below + 1, place⟩
  | true, false => some ⟨below, place⟩
  | false, true => some ⟨below + 1, place⟩
  | false, false => none

def leadingPlace (number : Binary) : Int :=
  (number.mantissa.log2 + number.scale) * 30103 / 100000 + 1

/-- The digits of a double: those on the coarsest grid that has a point for it. Seventeen digits
always suffice, and the search starts at most three places too high. -/
def shortest (number : Binary) : Digits :=
  ((List.range 21).findSome? fun (step : Nat) =>
    number.onGrid? (number.leadingPlace - step)).getD ⟨number.mantissa, 0⟩

end Binary

def exponentText (exponent : Int) : String :=
  (if exponent < 0 then "e-" else "e+") ++ toString exponent.natAbs

/-- How digits are laid out: where the point stands decides. Numbers from a hundred-thousandth up
to ten to the sixteenth are written in full, others with an exponent; there is a digit on both
sides of a point. -/
def Digits.render (digits : Digits) : String :=
  let written := (toString digits.count).toList
  let point : Int := written.length + digits.place
  let zeros (count : Int) : List Char := List.replicate count.toNat '0'
  String.ofList <|
    if 0 ≤ digits.place ∧ point ≤ 16 then written ++ zeros digits.place ++ ['.', '0']
    else if 0 < point ∧ point ≤ 16 then
      written.take point.toNat ++ ['.'] ++ written.drop point.toNat
    else if -5 < point ∧ point ≤ 0 then ['0', '.'] ++ zeros (-point) ++ written
    else
      written.take 1 ++ (if written.length = 1 then [] else '.' :: written.drop 1) ++
        (exponentText (point - 1)).toList

def render (value : Float) : String :=
  let number := Binary.ofFloat value
  let sign := if value.toBits.toNat < 0x8000000000000000 then "" else "-"
  sign ++ if number.mantissa = 0 then "0.0" else number.shortest.render

example : (Binary.shortest ⟨hiddenBit, -52, true⟩).render = "1.0" := by decide +kernel
example : (Binary.shortest ⟨1, -1074, false⟩).render = "5e-324" := by decide +kernel
example : (Digits.render ⟨15, 299⟩) = "1.5e+300" := by decide +kernel
example : (Digits.render ⟨25, -6⟩) = "0.000025" := by decide +kernel

end SourceDiagnostics.Decimal
