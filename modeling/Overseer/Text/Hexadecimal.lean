/-!
# Hexadecimal text

Numbers and bytes in base sixteen with lower-case digits. A byte is always two digits; a number is
written with the fewest digits, or padded with zeros to a given width.
-/
namespace Overseer.Hexadecimal

/-- The digit of a value below sixteen. -/
def digit (value : Nat) : Char :=
  if value < 10 then Char.ofNat ('0'.toNat + value) else Char.ofNat ('a'.toNat + (value - 10))

/-- The value of a digit in either case, if the character is one. -/
def value? (char : Char) : Option Nat :=
  if '0' ≤ char ∧ char ≤ '9' then some (char.toNat - '0'.toNat)
  else if 'a' ≤ char ∧ char ≤ 'f' then some (char.toNat - 'a'.toNat + 10)
  else if 'A' ≤ char ∧ char ≤ 'F' then some (char.toNat - 'A'.toNat + 10)
  else none

/-- The last `width` digits of a number, with leading zeros. -/
def padded : (width value : Nat) → List Char
  | 0, _ => []
  | width + 1, value => padded width (value / 16) ++ [digit (value % 16)]

/-- The number of digits of a number; zero has one. -/
def width (value : Nat) : Nat :=
  if value < 16 then 1 else width (value / 16) + 1
termination_by value
decreasing_by omega

/-- A number in the fewest digits. -/
def shortest (value : Nat) : List Char := padded (width value) value

/-- Padded text has exactly the requested width. -/
@[simp] theorem length_padded (count value : Nat) : (padded count value).length = count := by
  induction count generalizing value with
  | zero => rfl
  | succ count ih => simp [padded, ih]

/-- The text of a byte sequence, two digits a byte. -/
def ofBytes (bytes : List UInt8) : String :=
  String.ofList (bytes.flatMap fun byte => padded 2 byte.toNat)

/-- Read two digits a byte; an odd digit at the end or another character is refused. -/
def bytes? : List Char → Option (List UInt8)
  | [] => some []
  | high :: low :: rest => do
    let high ← value? high
    let low ← value? low
    let bytes ← bytes? rest
    some (UInt8.ofNat (16 * high + low) :: bytes)
  | [_] => none

end Overseer.Hexadecimal
