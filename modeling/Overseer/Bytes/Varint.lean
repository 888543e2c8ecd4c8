/-!
# Numbers in base 128

A natural number is written in base 128 with its least digit first; the high bit of a byte says
that a further digit follows. The writer uses the fewest digits. The reader is bounded by a count
of digits and by the greatest last digit, which together stand for the width of a machine word;
within those bounds it also accepts leading zero digits.
-/
namespace Overseer.Varint

/-- A number in the fewest digits. -/
def encode (value : Nat) : List UInt8 :=
  if value < 128 then [UInt8.ofNat value]
  else UInt8.ofNat (value % 128 + 128) :: encode (value / 128)
termination_by value
decreasing_by omega

/-- Read a number of at most `digits` digits, of which the last possible one is at most `top`; the
bytes after it come second. -/
def decode? (top : Nat) : (digits : Nat) → List UInt8 → Option (Nat × List UInt8)
  | 0, _ => none
  | _ + 1, [] => none
  | digits + 1, byte :: rest =>
    if byte.toNat < 128 then
      if digits = 0 ∧ top < byte.toNat then none else some (byte.toNat, rest)
    else (decode? top digits rest).map fun (high, tail) => (byte.toNat - 128 + 128 * high, tail)

/-- Read a number of thirty-two bits. -/
def word32? (bytes : List UInt8) : Option (Nat × List UInt8) := decode? 15 5 bytes

/-- Read a number of sixteen bits. -/
def word16? (bytes : List UInt8) : Option (Nat × List UInt8) := decode? 3 3 bytes

/-- A number within the bounds is read back from its digits, whatever follows them. -/
theorem decode?_encode {top digits value : Nat} (small : top < 128)
    (fits : value < (top + 1) * Nat.pow 128 digits) (rest : List UInt8) :
    decode? top (digits + 1) (encode value ++ rest) = some (value, rest) := by
  induction digits generalizing value with
  | zero =>
    have low : value ≤ top := by
      change value < (top + 1) * 1 at fits
      omega
    have digit : (UInt8.ofNat value).toNat = value := by
      rw [UInt8.toNat_ofNat']
      omega
    rw [encode, if_pos (by omega)]
    simp only [List.cons_append, List.nil_append, decode?, digit]
    rw [if_pos (by omega), if_neg (by omega)]
  | succ digits ih =>
    rw [encode]
    by_cases last : value < 128
    · have digit : (UInt8.ofNat value).toNat = value := by
        rw [UInt8.toNat_ofNat']
        omega
      simp [decode?, last, digit]
    · have digit : (UInt8.ofNat (value % 128 + 128)).toNat = value % 128 + 128 := by
        rw [UInt8.toNat_ofNat']
        omega
      have high : value / 128 < (top + 1) * Nat.pow 128 digits := by
        apply Nat.div_lt_of_lt_mul
        rw [Nat.mul_left_comm, Nat.mul_comm 128]
        exact fits
      rw [if_neg last, List.cons_append, decode?, digit, if_neg (by omega), ih high]
      simp only [Option.map_some, Option.some.injEq, Prod.mk.injEq, and_true]
      omega

/-- A word of thirty-two bits is read back from its digits. -/
theorem word32?_encode (value : UInt32) (rest : List UInt8) :
    word32? (encode value.toNat ++ rest) = some (value.toNat, rest) :=
  decode?_encode (by decide) value.toNat_lt rest

/-- A word of sixteen bits is read back from its digits. -/
theorem word16?_encode (value : UInt16) (rest : List UInt8) :
    word16? (encode value.toNat ++ rest) = some (value.toNat, rest) :=
  decode?_encode (by decide) value.toNat_lt rest

end Overseer.Varint
