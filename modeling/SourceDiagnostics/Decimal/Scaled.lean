/-!
The double that a decimal literal is read as: its leading digits, as many as fit in 64 bits, are
converted and then scaled by a power of ten, with one rounding for each operation. The literal is
out of range when that overflows.
-/

namespace SourceDiagnostics.Decimal

structure Literal where
  negative : Bool
  whole : List Nat
  fraction : List Nat
  exponent : Int
  deriving DecidableEq, Repr

def significandBound : Nat := 0x10000000000000000

namespace Literal

def natural (digits : List Nat) : Nat :=
  digits.foldl (fun value digit => value * 10 + digit) 0

/-- The value of a digit sequence, held at the bound of significands once it is that large: the
digits of a long number need not be multiplied out to see that it is too large. -/
def boundedNatural (digits : List Nat) : Nat :=
  digits.foldl (fun value digit => min significandBound (value * 10 + digit)) 0

private theorem foldl_bounded (digits : List Nat) (value : Nat) :
    digits.foldl (fun value digit => min significandBound (value * 10 + digit))
        (min significandBound value) =
      min significandBound (digits.foldl (fun value digit => value * 10 + digit) value) := by
  induction digits generalizing value with
  | nil => rfl
  | cons digit rest induction =>
      rw [List.foldl_cons, List.foldl_cons, ← induction]
      congr 1
      have positive : 0 < significandBound := by decide
      omega

theorem boundedNatural_eq (digits : List Nat) :
    boundedNatural digits = min significandBound (natural digits) := by
  have held := foldl_bounded digits 0
  rwa [Nat.min_eq_right (Nat.zero_le _)] at held

/-- Takes in digits while the value fits in 64 bits; gives the value and how many digits were left
over. Once a digit does not fit, no later one is taken in. -/
def absorb (value : Nat) : List Nat → Nat × Nat
  | [] => (value, 0)
  | digit :: rest =>
      if value * 10 + digit < significandBound then absorb (value * 10 + digit) rest
      else (value, rest.length + 1)

/-- The 64-bit significand of a literal and the power of ten it is scaled by. Digits before the
point that were left over count by their place; after the point they are dropped. -/
def scaled (literal : Literal) : Nat × Int :=
  let (whole, skipped) := absorb 0 literal.whole
  let (significand, dropped) := absorb whole literal.fraction
  (significand, skipped - (literal.fraction.length - dropped : Nat) + literal.exponent)

end Literal

def powerOfTen (exponent : Nat) : Float :=
  Float.ofScientific 1 false exponent

/-- Division by a power of ten, in steps of the largest power that a double holds. -/
def scaleDown (value : Float) (exponent : Nat) : Float :=
  if exponent ≤ 308 then value / powerOfTen exponent
  else if value == 0 then value
  else scaleDown (value / powerOfTen 308) (exponent - 308)
termination_by exponent

def scale? (significand : Nat) (exponent : Int) : Option Float :=
  let value := significand.toUInt64.toFloat
  if exponent < 0 then some (scaleDown value exponent.natAbs)
  else if exponent ≤ 308 then
    let product := value * powerOfTen exponent.toNat
    if product.isInf then none else some product
  else if significand = 0 then some value
  else none

def Literal.toFloat? (literal : Literal) : Option Float :=
  let (significand, exponent) := literal.scaled
  (scale? significand exponent).map fun value => if literal.negative then -value else value

end SourceDiagnostics.Decimal
