/-!
# Little-endian numbers

A natural number as a fixed count of bytes, the least byte first. A number that fits the bytes is
read back from them.
-/
namespace Overseer.LittleEndian

/-- The lowest bytes of a number, the least first. -/
def encode : (count value : Nat) → List UInt8
  | 0, _ => []
  | count + 1, value => UInt8.ofNat value :: encode count (value / 256)

/-- The number of a byte sequence. -/
def decode (bytes : List UInt8) : Nat :=
  bytes.foldr (fun byte value => byte.toNat + 256 * value) 0

@[simp] theorem length_encode (count value : Nat) : (encode count value).length = count := by
  induction count generalizing value with
  | zero => rfl
  | succ count ih => simp [encode, ih]

/-- A number that fits the bytes is read back from them. -/
theorem decode_encode {count value : Nat} (fits : value < Nat.pow 256 count) :
    decode (encode count value) = value := by
  induction count generalizing value with
  | zero =>
    have zero : value = 0 := by simpa using fits
    simp [encode, decode, zero]
  | succ count ih =>
    have high : value / 256 < Nat.pow 256 count := by
      apply Nat.div_lt_of_lt_mul
      rw [Nat.mul_comm]
      exact fits
    have rest : decode (encode count (value / 256)) = value / 256 := ih high
    simp only [decode] at rest
    simp only [encode, decode, List.foldr_cons, rest, UInt8.toNat_ofNat']
    omega

/-- The number of a byte sequence fits its bytes. -/
theorem decode_lt (bytes : List UInt8) : decode bytes < Nat.pow 256 bytes.length := by
  induction bytes with
  | nil => decide
  | cons byte bytes ih =>
    have := byte.toNat_lt
    change byte.toNat + 256 * decode bytes < Nat.pow 256 bytes.length * 256
    omega

end Overseer.LittleEndian
