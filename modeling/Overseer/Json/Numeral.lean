import Overseer.Double

/-!
# Numerals

A number of a JSON text as it is written: a sign, whole digits without a leading zero, digits after
a point, and an exponent. Two questions are asked of it. Is it an integer of a machine word? And if
not, is it a finite number in double precision? The second is answered the way a reader does that
gathers at most one word of digits and scales it once.
-/
namespace Overseer.Json

/-- A number as it is written. -/
structure Numeral where
  /-- Whether a minus sign stands in front. -/
  negative : Bool
  /-- The digits before the point. -/
  whole : List Char
  /-- The digits after the point; a numeral without a point has none. -/
  fraction : List Char
  /-- The power of ten after an exponent mark, if there is one. -/
  exponent : Option Int
deriving DecidableEq, Repr

namespace Numeral

/-- The value of one digit. -/
def digitValue (digit : Char) : Nat := digit.toNat - '0'.toNat

/-- The value of a digit sequence. -/
def digitsValue (digits : List Char) : Nat :=
  digits.foldl (fun value digit => 10 * value + digitValue digit) 0

/-- The whole digits at the front of a text: one zero, or digits that do not start with one. -/
def readWhole : List Char → Option (List Char × List Char)
  | [] => none
  | '0' :: rest => some (['0'], rest)
  | first :: rest =>
    if first.isDigit then some (first :: rest.takeWhile Char.isDigit, rest.dropWhile Char.isDigit)
    else none

/-- At least one digit at the front of a text. -/
def readDigits (text : List Char) : Option (List Char × List Char) :=
  match text.takeWhile Char.isDigit with
  | [] => none
  | digits => some (digits, text.dropWhile Char.isDigit)

/-- The point and the digits after it, if a point follows. -/
def readFraction : List Char → Option (List Char × List Char)
  | '.' :: rest => readDigits rest
  | text => some ([], text)

/-- The digits of an exponent after its mark, with an optional sign. -/
def readPower : List Char → Option (Int × List Char)
  | '-' :: rest => (readDigits rest).map fun (digits, tail) => (-(digitsValue digits : Int), tail)
  | '+' :: rest => (readDigits rest).map fun (digits, tail) => ((digitsValue digits : Int), tail)
  | text => (readDigits text).map fun (digits, tail) => ((digitsValue digits : Int), tail)

/-- The exponent, if a mark follows. -/
def readExponent : List Char → Option (Option Int × List Char)
  | 'e' :: rest => (readPower rest).map fun (power, tail) => (some power, tail)
  | 'E' :: rest => (readPower rest).map fun (power, tail) => (some power, tail)
  | text => some (none, text)

/-- The parts of a numeral after its sign. -/
def readUnsigned (negative : Bool) (text : List Char) : Option (Numeral × List Char) := do
  let (whole, rest) ← readWhole text
  let (fraction, rest) ← readFraction rest
  let (exponent, rest) ← readExponent rest
  some (⟨negative, whole, fraction, exponent⟩, rest)

/-- The numeral at the front of a text. -/
def read : List Char → Option (Numeral × List Char)
  | '-' :: rest => readUnsigned true rest
  | text => readUnsigned false text

/-- The integer of a numeral without point and exponent, if a signed or an unsigned word of
sixty-four bits holds it. A negative zero is no integer. -/
def integer? (numeral : Numeral) : Option Int :=
  if numeral.fraction.isEmpty && numeral.exponent.isNone then
    let value := digitsValue numeral.whole
    if numeral.negative then
      if 0 < value ∧ value ≤ Nat.pow 2 63 then some (-(value : Int)) else none
    else if value < UInt64.size then some value
    else none
  else none

/-- Gather digits while the result fits one word; the digits left over come second. -/
def gather : Nat → List Char → Nat × List Char
  | gathered, [] => (gathered, [])
  | gathered, digit :: rest =>
    if 10 * gathered + digitValue digit < UInt64.size then
      gather (10 * gathered + digitValue digit) rest
    else (gathered, digit :: rest)

/-- The greatest power of ten that a number is scaled by at once. -/
def greatestPower : Nat := 308

/-- A power of ten in double precision. -/
def tenTo (power : Nat) : Double := Double.ofNat (Nat.pow 10 power)

/-- Divide by a power of ten, a great one in steps of which each is rounded. -/
def scaleDown (value : Double) (power : Nat) : Double :=
  if power ≤ greatestPower then value / tenTo power
  else if value.isZero then value
  else scaleDown (value / tenTo greatestPower) (power - greatestPower)
termination_by power
decreasing_by
  simp only [greatestPower] at *
  omega

/-- Multiply or divide by a power of ten; a result that double precision does not hold is
refused. -/
def scale? (value : Double) : Int → Option Double
  | .ofNat power =>
    if value.isZero then some value
    else if power ≤ greatestPower then
      let scaled := value * tenTo power
      if scaled.isFinite then some scaled else none
    else none
  | .negSucc power => some (scaleDown value (power + 1))

/-- The number in double precision that the numeral stands for: the gathered digits, scaled by the
power of ten that is left. Whole digits that were not gathered raise the power, fraction digits that
were lower it, and other fraction digits are ignored. -/
def double? (numeral : Numeral) : Option Double :=
  let (whole, wholeLeft) := gather 0 numeral.whole
  let (gathered, fractionLeft) := gather whole numeral.fraction
  let power : Int := wholeLeft.length - (numeral.fraction.length - fractionLeft.length : Nat) +
    numeral.exponent.getD 0
  (scale? (Double.ofNat gathered) power).map fun value =>
    { value with negative := numeral.negative }

/-- Whole digits are taken from the front of the text. -/
theorem readWhole_shorter {text whole rest : List Char}
    (found : readWhole text = some (whole, rest)) :
    rest.length < text.length := by
  unfold readWhole at found
  split at found
  · contradiction
  · simp only [Option.some.injEq, Prod.mk.injEq] at found
    simp [← found.2]
  · split at found
    · rename_i tail _ _
      simp only [Option.some.injEq, Prod.mk.injEq] at found
      have cut := (List.dropWhile_suffix Char.isDigit (l := tail)).length_le
      simp only [← found.2, List.length_cons]
      omega
    · contradiction

/-- Reading digits leaves no longer a text. -/
theorem readDigits_le {text digits rest : List Char}
    (found : readDigits text = some (digits, rest)) :
    rest.length ≤ text.length := by
  unfold readDigits at found
  split at found
  · contradiction
  · simp only [Option.some.injEq, Prod.mk.injEq] at found
    rw [← found.2]
    exact (List.dropWhile_suffix _).length_le

/-- Reading a fraction leaves no longer a text. -/
theorem readFraction_le {text digits rest : List Char}
    (found : readFraction text = some (digits, rest)) : rest.length ≤ text.length := by
  unfold readFraction at found
  split at found
  · have := readDigits_le found
    simp only [List.length_cons]
    omega
  · simp only [Option.some.injEq, Prod.mk.injEq] at found
    simp [← found.2]

/-- Reading a power leaves no longer a text. -/
theorem readPower_le {text rest : List Char} {power : Int}
    (found : readPower text = some (power, rest)) : rest.length ≤ text.length := by
  unfold readPower at found
  split at found
  case h_3 =>
    simp only [Option.map_eq_some_iff, Prod.mk.injEq, Prod.exists] at found
    obtain ⟨digits, tail, read, _, rfl⟩ := found
    exact readDigits_le read
  all_goals
    simp only [Option.map_eq_some_iff, Prod.mk.injEq, Prod.exists] at found
    obtain ⟨digits, tail, read, _, rfl⟩ := found
    have := readDigits_le read
    simp only [List.length_cons]
    omega

/-- Reading an exponent leaves no longer a text. -/
theorem readExponent_le {text rest : List Char} {exponent : Option Int}
    (found : readExponent text = some (exponent, rest)) : rest.length ≤ text.length := by
  unfold readExponent at found
  split at found
  case h_3 =>
    simp only [Option.some.injEq, Prod.mk.injEq] at found
    simp [← found.2]
  all_goals
    simp only [Option.map_eq_some_iff, Prod.mk.injEq, Prod.exists] at found
    obtain ⟨power, tail, read, _, rfl⟩ := found
    have := readPower_le read
    simp only [List.length_cons]
    omega

/-- A numeral takes at least one character from the front of the text. -/
theorem read_shorter {text rest : List Char} {numeral : Numeral}
    (found : read text = some (numeral, rest)) : rest.length < text.length := by
  have unsigned : ∀ {negative : Bool} {text : List Char},
      readUnsigned negative text = some (numeral, rest) → rest.length < text.length := by
    intro negative text found
    simp only [readUnsigned, Option.bind_eq_bind, Option.bind_eq_some_iff, Prod.exists,
      Option.some.injEq, Prod.mk.injEq] at found
    obtain ⟨whole, first, readFirst, fraction, second, readSecond, exponent, third, readThird,
      _, rfl⟩ := found
    have := readWhole_shorter readFirst
    have := readFraction_le readSecond
    have := readExponent_le readThird
    omega
  unfold read at found
  split at found
  · have := unsigned found
    simp only [List.length_cons]
    omega
  · exact unsigned found

end Numeral

end Overseer.Json
