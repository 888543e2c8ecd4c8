import Overseer.Double

/-!
# Shortest decimals

A number in double precision is identified by every decimal that lies nearer to it than to its
neighbours, that is, by every decimal that is read back as the number. The shortest of them is a
multiple of the greatest power of ten of which any multiple identifies the number; of two such
multiples the nearer one is taken. Decimals and magnitudes are compared as naturals: both are
counted in quarters of the least positive number, and both are multiplied by the power of ten that
a decimal with a negative power is divided by.
-/
namespace Overseer

/-- A decimal that is not negative: digits scaled by a power of ten. -/
structure Decimal where
  /-- The digits, as one number. -/
  digits : Nat
  /-- The power of ten that they are scaled by. -/
  power : Int
deriving DecidableEq, Repr, Inhabited

namespace Double

/-- The magnitude in quarters of the least positive number, in which the bounds halfway to the
neighbours are whole. -/
def quarters (double : Double) : Nat := 4 * double.units

/-- Halfway to the next smaller magnitude, in quarters. Below a power of two the numbers are twice
as dense. -/
def lowerBound (double : Double) : Nat :=
  let half := if double.significand = Nat.pow 2 (precision - 1) ∧ 0 < double.shift then 1 else 2
  double.quarters - half * Nat.pow 2 double.shift

/-- Halfway to the next greater magnitude, in quarters. -/
def upperBound (double : Double) : Nat := double.quarters + 2 * Nat.pow 2 double.shift

/-- A magnitude in quarters, to be compared with decimals of a power. -/
def atScale (power : Int) (quarters : Nat) : Nat := quarters * Nat.pow 10 (-power).toNat

/-- A decimal, to be compared with magnitudes at the scale of its power. -/
def scaled (decimal : Decimal) : Nat :=
  decimal.digits * Nat.pow 10 decimal.power.toNat * (4 * unitsOfOne)

/-- Whether the decimal is read back as the magnitude of the number. Halfway points count for the
number with the even significand. -/
def identifies (double : Double) (decimal : Decimal) : Bool :=
  let value := scaled decimal
  let lower := atScale decimal.power double.lowerBound
  let upper := atScale decimal.power double.upperBound
  if double.significand % 2 = 0 then lower ≤ value && value ≤ upper
  else lower < value && value < upper

/-- The nearest multiple of a power of ten that identifies the number, if there is one. -/
def onGrid? (double : Double) (power : Int) : Option Decimal :=
  let value := atScale power double.quarters
  let step := scaled ⟨1, power⟩
  let below : Decimal := ⟨value / step, power⟩
  let above : Decimal := ⟨value / step + 1, power⟩
  match double.identifies below, double.identifies above with
  | false, false => none
  | true, false => some below
  | false, true => some above
  | true, true => some ⟨nearest value step, power⟩

/-- The powers of ten that a finite number may be a multiple of, the greatest first. -/
def powers : List Int := (List.range 634).map fun place : Nat => 309 - (place : Int)

/-- The shortest decimal that identifies the number. A search without success would end with the
exact value, which has as many places as the least positive number. -/
def shortest (double : Double) : Decimal :=
  (powers.findSome? double.onGrid?).getD ⟨double.units * Nat.pow 5 1074, -1074⟩

end Double

end Overseer
