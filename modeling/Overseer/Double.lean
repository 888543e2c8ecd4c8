/-!
# Double precision

A number in double precision is a sign and a significand of at most fifty-three bits, shifted to the
left and counted in the least positive number, of which `2 ^ 1074` make one. Every operation is
computed exactly and rounded once: to the nearest number, and to the even one of two equally near
ones. Results of any size are kept; `isFinite` tells those that double precision holds.
-/
namespace Overseer

/-- A number in double precision. -/
structure Double where
  /-- Whether the number is negative; zero may be, too. -/
  negative : Bool := false
  /-- The leading bits. -/
  significand : Nat := 0
  /-- How far the significand is shifted to the left. -/
  shift : Nat := 0
deriving DecidableEq, Repr, Inhabited

namespace Double

/-- The number of bits of a significand. -/
def precision : Nat := 53

/-- How many of the least positive number make one. -/
def unitsOfOne : Nat := Nat.pow 2 1074

/-- The greatest shift of a number that double precision holds. -/
def shiftLimit : Nat := 2045

/-- The magnitude, counted in the least positive number. -/
def units (double : Double) : Nat := double.significand * Nat.pow 2 double.shift

/-- Whether double precision holds the number. -/
def isFinite (double : Double) : Bool := double.shift ≤ shiftLimit

/-- Whether the number is zero, of either sign. -/
def isZero (double : Double) : Bool := double.significand == 0

/-- The integer nearest to a quotient, the even one of two that are equally near. -/
def nearest (numerator denominator : Nat) : Nat :=
  let quotient := numerator / denominator
  let remainder := numerator % denominator
  if denominator < 2 * remainder ∨ denominator = 2 * remainder ∧ quotient % 2 = 1 then quotient + 1
  else quotient

/-- A significand that rounding took to the next power of two has its last bit moved to the
shift. -/
def carry (negative : Bool) (significand shift : Nat) : Double :=
  if significand = Nat.pow 2 precision then ⟨negative, Nat.pow 2 (precision - 1), shift + 1⟩
  else ⟨negative, significand, shift⟩

/-- The number nearest to a quotient, counted in the least positive number. -/
def round (negative : Bool) (numerator denominator : Nat) : Double :=
  let shift := (numerator / denominator).log2 + 1 - precision
  carry negative (nearest numerator (denominator * Nat.pow 2 shift)) shift

/-- The number nearest to a natural one. -/
def ofNat (value : Nat) : Double := round false (value * unitsOfOne) 1

/-- The product. -/
def mul (left right : Double) : Double :=
  round (left.negative != right.negative) (left.units * right.units) unitsOfOne

/-- The quotient. -/
def div (left right : Double) : Double :=
  round (left.negative != right.negative) (left.units * unitsOfOne) right.units

instance : Mul Double := ⟨mul⟩
instance : Div Double := ⟨div⟩

/-- The rounded quotient is within half of one of the exact quotient. -/
theorem nearest_near (numerator denominator : Nat) (positive : 0 < denominator) :
    2 * (nearest numerator denominator * denominator) ≤ 2 * numerator + denominator ∧
      2 * numerator ≤ 2 * (nearest numerator denominator * denominator) + denominator := by
  have whole := Nat.div_add_mod numerator denominator
  have small := Nat.mod_lt numerator positive
  unfold nearest
  generalize numerator / denominator = quotient at *
  generalize numerator % denominator = remainder at *
  have product : quotient * denominator = denominator * quotient := Nat.mul_comm ..
  have next : (quotient + 1) * denominator = denominator * quotient + denominator := by
    rw [Nat.succ_mul, product]
  dsimp only
  split
  · rw [next]
    omega
  · rw [product]
    omega

/-- Of two integers equally near, the even one is taken. -/
theorem nearest_even (numerator denominator : Nat)
    (tie : denominator = 2 * (numerator % denominator)) :
    nearest numerator denominator % 2 = 0 := by
  unfold nearest
  dsimp only
  split <;> omega

/-- A rounded number has at most fifty-three bits. -/
theorem significand_round_lt (negative : Bool) (numerator denominator : Nat) :
    (round negative numerator denominator).significand < Nat.pow 2 precision := by
  have bound : nearest numerator
      (denominator * Nat.pow 2 ((numerator / denominator).log2 + 1 - precision)) ≤
        Nat.pow 2 precision := by
    generalize scale : Nat.pow 2 ((numerator / denominator).log2 + 1 - precision) = unit
    have some_unit : 0 < unit := by
      rw [← scale]
      exact Nat.two_pow_pos _
    have top : numerator / denominator < Nat.pow 2 precision * unit := by
      rw [← scale, Nat.pow_eq, Nat.pow_eq, ← Nat.pow_add]
      exact Nat.lt_of_lt_of_le Nat.lt_log2_self (Nat.pow_le_pow_right (by decide) (by omega))
    have below : numerator / (denominator * unit) < Nat.pow 2 precision := by
      rw [← Nat.div_div_eq_div_mul]
      exact Nat.div_lt_of_lt_mul (by rwa [Nat.mul_comm])
    unfold nearest
    dsimp only
    split <;> omega
  unfold round carry
  dsimp only
  split
  · exact Nat.pow_lt_pow_right (by decide) (by decide)
  · exact Nat.lt_of_le_of_ne bound ‹_›

end Double

end Overseer
