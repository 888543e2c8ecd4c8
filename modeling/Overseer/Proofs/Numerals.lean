import Overseer.Json.Numeral

/-!
# Written numerals

What a numeral looks like is a grammar (`Numeral.Written`): a sign, whole digits, and if there are
any, digits after a point and a power after a mark. The reader takes from the front of a text
nothing but written numerals, and takes each of them whole, if what follows does not continue it.
Decimal digits as they are printed are a numeral, of the number that they are printed for.
-/
namespace Overseer.Json.Numeral

/-! ### The grammar -/

/-- Digits before a point: one zero, or digits the first of which is none. -/
inductive IsWhole : List Char → Prop
  | zero : IsWhole ['0']
  | digits {first : Char} (more : List Char) (digit : first.isDigit = true)
      (nonzero : first ≠ '0') : IsWhole (first :: more)

/-- Digits, and at least one. -/
structure IsDigits (digits : List Char) : Prop where
  nonempty : digits ≠ []
  digit : ∀ digit ∈ digits, digit.isDigit = true

/-- What is written for the digits after a point, which is nothing if there are none. -/
inductive IsFraction : List Char → List Char → Prop
  | none : IsFraction [] []
  | point {digits : List Char} (present : IsDigits digits) : IsFraction ('.' :: digits) digits

/-- What is written for a power of ten. -/
inductive IsPower : List Char → Int → Prop
  | bare {digits : List Char} (present : IsDigits digits) : IsPower digits (digitsValue digits)
  | plus {digits : List Char} (present : IsDigits digits) :
      IsPower ('+' :: digits) (digitsValue digits)
  | minus {digits : List Char} (present : IsDigits digits) :
      IsPower ('-' :: digits) (-(digitsValue digits : Int))

/-- What is written for an exponent, which is nothing if there is none. -/
inductive IsExponent : List Char → Option Int → Prop
  | none : IsExponent [] none
  | mark {letter : Char} {text : List Char} {power : Int} (mark : letter = 'e' ∨ letter = 'E')
      (written : IsPower text power) : IsExponent (letter :: text) (some power)

/-- The sign and the whole digits of a numeral, as they are written. -/
def opening (numeral : Numeral) : List Char :=
  if numeral.negative then '-' :: numeral.whole else numeral.whole

/-- How a numeral is written. -/
structure Written (text : List Char) (numeral : Numeral) : Prop where
  whole : IsWhole numeral.whole
  digits : IsDigits numeral.whole
  parts : ∃ fraction exponent, text = numeral.opening ++ (fraction ++ exponent) ∧
    IsFraction fraction numeral.fraction ∧ IsExponent exponent numeral.exponent

/-- A written numeral begins with a minus sign or a digit. -/
theorem Written.head {text : List Char} {numeral : Numeral} (written : Written text numeral) :
    ∃ first more, text = first :: more ∧ (first = '-' ∨ first.isDigit = true) := by
  obtain ⟨_, present, fraction, exponent, rfl, _⟩ := written
  obtain ⟨first, more, start⟩ := List.exists_cons_of_ne_nil present.nonempty
  have digit := present.digit first (start ▸ List.mem_cons_self)
  rw [opening]
  split
  · exact ⟨'-', _, rfl, .inl rfl⟩
  · exact ⟨first, _, by rw [start]; rfl, .inr digit⟩

/-- A numeral without point and exponent is written with its sign and its whole digits alone. -/
theorem Written.eq_opening {text : List Char} {numeral : Numeral} (written : Written text numeral)
    (plain : numeral.fraction = []) (unscaled : numeral.exponent = none) :
    text = numeral.opening := by
  obtain ⟨fraction, exponent, rfl, isFraction, isExponent⟩ := written.parts
  rw [plain] at isFraction
  rw [unscaled] at isExponent
  have bare : fraction = [] := by
    cases isFraction with
    | none => rfl
    | point present => exact absurd rfl present.nonempty
  cases isExponent
  rw [bare, List.append_nil, List.append_nil]

/-! ### What is read is written -/

/-- Digits that are read are written. -/
theorem digits_of_read {text digits rest : List Char}
    (found : readDigits text = some (digits, rest)) :
    text = digits ++ rest ∧ IsDigits digits := by
  unfold readDigits at found
  split at found
  · contradiction
  · rename_i nonempty
    obtain ⟨rfl, rfl⟩ := Prod.mk.inj (Option.some.inj found)
    exact ⟨List.takeWhile_append_dropWhile.symm, fun empty => nonempty empty,
      List.all_eq_true.mp List.all_takeWhile⟩

/-- Whole digits that are read are written. -/
theorem whole_of_read {text whole rest : List Char}
    (found : readWhole text = some (whole, rest)) :
    text = whole ++ rest ∧ IsWhole whole ∧ IsDigits whole := by
  unfold readWhole at found
  split at found
  · contradiction
  · obtain ⟨rfl, rfl⟩ := Prod.mk.inj (Option.some.inj found)
    exact ⟨rfl, .zero, List.cons_ne_nil _ _, List.forall_mem_singleton.mpr rfl⟩
  · rename_i nonzero
    obtain ⟨digit, same⟩ := Option.ite_none_right_eq_some.mp found
    obtain ⟨rfl, rfl⟩ := Prod.mk.inj (Option.some.inj same)
    refine ⟨?_, .digits _ digit nonzero, List.cons_ne_nil _ _, ?_⟩
    · rw [List.cons_append, List.takeWhile_append_dropWhile]
    · exact List.forall_mem_cons.mpr ⟨digit, List.all_eq_true.mp List.all_takeWhile⟩

/-- A fraction that is read is written. -/
theorem fraction_of_read {text digits rest : List Char}
    (found : readFraction text = some (digits, rest)) :
    ∃ word, text = word ++ rest ∧ IsFraction word digits := by
  unfold readFraction at found
  split at found
  · obtain ⟨rfl, present⟩ := digits_of_read found
    exact ⟨_, rfl, .point present⟩
  · obtain ⟨rfl, rfl⟩ := Prod.mk.inj (Option.some.inj found)
    exact ⟨[], rfl, .none⟩

/-- A power that is read is written. -/
theorem power_of_read {text rest : List Char} {power : Int}
    (found : readPower text = some (power, rest)) :
    ∃ word, text = word ++ rest ∧ IsPower word power := by
  unfold readPower at found
  split at found
  all_goals
    obtain ⟨⟨digits, tail⟩, read, same⟩ := Option.map_eq_some_iff.mp found
    obtain ⟨rfl, rfl⟩ := Prod.mk.inj same
    obtain ⟨rfl, present⟩ := digits_of_read read
  · exact ⟨_, rfl, .minus present⟩
  · exact ⟨_, rfl, .plus present⟩
  · exact ⟨_, rfl, .bare present⟩

/-- An exponent that is read is written. -/
theorem exponent_of_read {text rest : List Char} {exponent : Option Int}
    (found : readExponent text = some (exponent, rest)) :
    ∃ word, text = word ++ rest ∧ IsExponent word exponent := by
  unfold readExponent at found
  split at found
  case h_3 =>
    obtain ⟨rfl, rfl⟩ := Prod.mk.inj (Option.some.inj found)
    exact ⟨[], rfl, .none⟩
  all_goals
    obtain ⟨⟨power, tail⟩, read, same⟩ := Option.map_eq_some_iff.mp found
    obtain ⟨rfl, rfl⟩ := Prod.mk.inj same
    obtain ⟨word, rfl, written⟩ := power_of_read read
    exact ⟨_, rfl, .mark (by decide) written⟩

/-- A numeral that is read is written. -/
theorem written_of_read {text rest : List Char} {numeral : Numeral}
    (found : read text = some (numeral, rest)) :
    ∃ word, text = word ++ rest ∧ Written word numeral := by
  have unsigned {negative : Bool} {text : List Char}
      (found : readUnsigned negative text = some (numeral, rest)) : numeral.negative = negative ∧
        ∃ tail, text = numeral.whole ++ tail ++ rest ∧
          Written (numeral.opening ++ tail) numeral := by
    simp only [readUnsigned, Option.bind_eq_bind, Option.bind_eq_some_iff, Prod.exists,
      Option.some.injEq, Prod.mk.injEq] at found
    obtain ⟨whole, first, readFirst, digits, second, readSecond, power, third, readThird, rfl,
      rfl⟩ := found
    obtain ⟨rfl, isWhole, present⟩ := whole_of_read readFirst
    obtain ⟨fraction, rfl, isFraction⟩ := fraction_of_read readSecond
    obtain ⟨exponent, rfl, isExponent⟩ := exponent_of_read readThird
    exact ⟨rfl, fraction ++ exponent, by simp, isWhole, present, _, _, rfl, isFraction,
      isExponent⟩
  unfold read at found
  split at found
  · obtain ⟨sign, tail, rfl, written⟩ := unsigned found
    exact ⟨_, by simp [opening, sign], written⟩
  · obtain ⟨sign, tail, rfl, written⟩ := unsigned found
    exact ⟨_, by simp [opening, sign], written⟩

/-! ### What is written is read -/

/-- Text that continues no digits. -/
def EndsDigits (rest : List Char) : Prop := ∀ first ∈ rest.head?, first.isDigit = false

/-- Text that continues no numeral. -/
def Ends (rest : List Char) : Prop :=
  ∀ first ∈ rest.head?, first.isDigit = false ∧ first ≠ '.' ∧ first ≠ 'e' ∧ first ≠ 'E'

variable {text rest : List Char}

/-- Digits are read up to what does not continue them. -/
theorem read_digits {digits : List Char} (present : IsDigits digits) (ends : EndsDigits rest) :
    readDigits (digits ++ rest) = some (digits, rest) := by
  have none : rest.takeWhile Char.isDigit = [] := by
    cases rest with
    | nil => rfl
    | cons first more => exact List.takeWhile_cons_of_neg (by simp [ends first rfl])
  have all : rest.dropWhile Char.isDigit = rest := by
    have split := List.takeWhile_append_dropWhile (p := Char.isDigit) (l := rest)
    rwa [none, List.nil_append] at split
  have taken : (digits ++ rest).takeWhile Char.isDigit = digits := by
    rw [List.takeWhile_append_of_pos present.digit, none, List.append_nil]
  have dropped : (digits ++ rest).dropWhile Char.isDigit = rest := by
    rw [List.dropWhile_append_of_pos present.digit, all]
  unfold readDigits
  rw [taken, dropped]
  split
  · exact absurd rfl present.nonempty
  · rfl

/-- Whole digits are read up to what does not continue them. -/
theorem read_whole {whole : List Char} (isWhole : IsWhole whole) (present : IsDigits whole)
    (ends : EndsDigits rest) : readWhole (whole ++ rest) = some (whole, rest) := by
  cases isWhole with
  | zero => rfl
  | @digits first more digit nonzero =>
    have read := read_digits present ends
    unfold readDigits at read
    rw [List.cons_append, List.takeWhile_cons_of_pos digit,
      List.dropWhile_cons_of_pos digit] at read
    rw [List.cons_append, readWhole]
    · rw [if_pos digit]
      exact read
    · exact nonzero

/-- A fraction is read up to what does not continue it. -/
theorem read_fraction {digits : List Char} (written : IsFraction text digits)
    (ends : EndsDigits rest) (pointless : ∀ first ∈ rest.head?, first ≠ '.') :
    readFraction (text ++ rest) = some (digits, rest) := by
  cases written with
  | none =>
    rw [List.nil_append]
    unfold readFraction
    split
    · exact absurd rfl (pointless '.' rfl)
    · rfl
  | point present => exact read_digits present ends

/-- A power is read up to what does not continue it. -/
theorem read_power {power : Int} (written : IsPower text power) (ends : EndsDigits rest) :
    readPower (text ++ rest) = some (power, rest) := by
  cases written with
  | bare present =>
    have read := read_digits present ends
    obtain ⟨first, more, rfl⟩ := List.exists_cons_of_ne_nil present.nonempty
    have digit := present.digit first List.mem_cons_self
    rw [List.cons_append] at read ⊢
    rw [readPower, read]
    · rfl
    · rintro more ⟨⟩
      contradiction
    · rintro more ⟨⟩
      contradiction
  | plus present =>
    rw [List.cons_append, readPower, read_digits present ends]
    rfl
  | minus present =>
    rw [List.cons_append, readPower, read_digits present ends]
    rfl

/-- An exponent is read up to what does not continue it. -/
theorem read_exponent {exponent : Option Int} (written : IsExponent text exponent)
    (ends : Ends rest) : readExponent (text ++ rest) = some (exponent, rest) := by
  cases written with
  | none =>
    rw [List.nil_append]
    unfold readExponent
    split
    · exact absurd rfl (ends 'e' rfl).2.2.1
    · exact absurd rfl (ends 'E' rfl).2.2.2
    · rfl
  | mark mark written =>
    have read := read_power written fun first head => (ends first head).1
    rcases mark with rfl | rfl
    · rw [List.cons_append, readExponent, read]
      rfl
    · rw [List.cons_append, readExponent, read]
      rfl

/-- A fraction continues no digits. -/
theorem IsFraction.head {digits : List Char} (written : IsFraction text digits)
    (ends : EndsDigits rest) : EndsDigits (text ++ rest) := by
  cases written with
  | none => exact ends
  | point =>
    rintro first ⟨⟩
    rfl

/-- An exponent continues neither digits nor a fraction. -/
theorem IsExponent.head {exponent : Option Int} (written : IsExponent text exponent)
    (ends : Ends rest) :
    ∀ first ∈ (text ++ rest).head?, first.isDigit = false ∧ first ≠ '.' := by
  cases written with
  | none => exact fun first head => ⟨(ends first head).1, (ends first head).2.1⟩
  | mark mark _ =>
    intro first head
    obtain rfl := Option.some.inj head
    rcases mark with rfl | rfl <;> decide

/-- A numeral is read up to what does not continue it. -/
theorem read_of_written {numeral : Numeral} (written : Written text numeral) (ends : Ends rest) :
    read (text ++ rest) = some (numeral, rest) := by
  obtain ⟨isWhole, present, fraction, exponent, rfl, isFraction, isExponent⟩ := written
  have after := isExponent.head ends
  have before := isFraction.head fun first head => (after first head).1
  have unsigned : readUnsigned numeral.negative
      (numeral.whole ++ (fraction ++ (exponent ++ rest))) = some (numeral, rest) := by
    have readFirst := read_whole isWhole present before
    have readSecond := read_fraction isFraction (fun first head => (after first head).1)
      fun first head => (after first head).2
    have readThird := read_exponent isExponent ends
    simp only [readUnsigned, readFirst, readSecond, readThird, Option.bind_eq_bind,
      Option.bind_some]
  rw [List.append_assoc, List.append_assoc, opening]
  obtain ⟨first, more, start⟩ := List.exists_cons_of_ne_nil present.nonempty
  have digit := present.digit first (start ▸ List.mem_cons_self)
  split
  · rename_i negative
    rw [negative] at unsigned
    rw [List.cons_append, read, unsigned]
  · rename_i positive
    rw [Bool.eq_false_iff.mpr positive] at unsigned
    rw [start, List.cons_append] at unsigned ⊢
    rw [read, unsigned]
    rintro more ⟨⟩
    contradiction

/-! ### The value of digits -/

/-- Further digits multiply the value of those before them by ten or more. -/
theorem mul_le_digitsValue (value : Nat) {digits : List Char} (nonempty : digits ≠ []) :
    10 * value ≤ digits.foldl (fun value digit => 10 * value + digitValue digit) value := by
  induction digits generalizing value with
  | nil => contradiction
  | cons digit rest ih =>
    rw [List.foldl_cons]
    by_cases last : rest = []
    · rw [last, List.foldl_nil]
      exact Nat.le_add_right _ _
    · have := ih (10 * value + digitValue digit) last
      omega

/-- A numeral of a natural number has neither sign nor point nor exponent. -/
theorem of_integer?_eq_natural {numeral : Numeral} {value : Nat}
    (integer : numeral.integer? = some (value : Int)) : numeral.negative = false ∧
      numeral.fraction = [] ∧ numeral.exponent = none ∧ digitsValue numeral.whole = value := by
  simp only [integer?, Option.ite_none_right_eq_some, Bool.and_eq_true, List.isEmpty_iff,
    Option.isNone_iff_eq_none] at integer
  obtain ⟨⟨plain, unscaled⟩, same⟩ := integer
  split at same
  · -- A negative integer is below every natural number.
    obtain ⟨⟨positive, _⟩, opposite⟩ := Option.ite_none_right_eq_some.mp same
    have := Option.some.inj opposite
    omega
  · rename_i positive
    have natural := Option.some.inj (Option.ite_none_right_eq_some.mp same).2
    exact ⟨Bool.eq_false_iff.mpr positive, plain, unscaled, Int.ofNat.inj natural⟩

/-- Only one digit has a value below ten. -/
theorem eq_of_digitsValue {whole : List Char} (digits : IsWhole whole)
    (small : digitsValue whole < 10) : whole = [Char.ofNat ('0'.toNat + digitsValue whole)] := by
  cases digits with
  | zero => rfl
  | @digits first more digit nonzero =>
    have range : 48 ≤ first.toNat ∧ first.toNat ≤ 57 := by
      simpa [Char.isDigit, UInt32.le_iff_toNat_le] using digit
    have other : first.toNat ≠ 48 := fun same =>
      nonzero (by rw [← Char.ofNat_toNat first, same])
    have value : digitValue first = first.toNat - 48 := rfl
    have split : digitsValue (first :: more) =
        more.foldl (fun value digit => 10 * value + digitValue digit) (digitValue first) := by
      simp [digitsValue]
    have single : more = [] := by
      by_cases further : more = []
      · exact further
      · have := mul_le_digitsValue (digitValue first) further
        omega
    subst single
    have same : '0'.toNat + digitsValue [first] = first.toNat := by
      rw [split, List.foldl_nil, value]
      change 48 + (first.toNat - 48) = first.toNat
      omega
    rw [same, Char.ofNat_toNat]

/-- The decimal digits of a positive number do not begin with zero. -/
theorem head_toDigits {value : Nat} (positive : 0 < value) :
    ∃ first more, Nat.toDigits 10 value = first :: more ∧ first ≠ '0' := by
  induction value using Nat.strongRecOn with
  | ind value ih =>
    rw [Nat.toDigits_eq_if (by decide)]
    split
    · rename_i small
      have all : ∀ digit < 10, 0 < digit → digit.digitChar ≠ '0' := by decide
      exact ⟨_, [], rfl, all value small positive⟩
    · obtain ⟨first, more, start, nonzero⟩ := ih (value / 10) (by omega) (by omega)
      exact ⟨first, _, by rw [start]; rfl, nonzero⟩

/-- The decimal digits of a natural number are written as a numeral. -/
theorem written_toDigits (value : Nat) :
    Written (Nat.toDigits 10 value) ⟨false, Nat.toDigits 10 value, [], none⟩ where
  whole := by
    rcases Nat.eq_zero_or_pos value with rfl | positive
    · exact .zero
    · obtain ⟨first, more, start, nonzero⟩ := head_toDigits positive
      have digit : first.isDigit = true :=
        Nat.isDigit_of_mem_toDigits (by decide) (by decide) (start ▸ List.mem_cons_self)
      rw [start]
      exact .digits more digit nonzero
  digits := ⟨Nat.toDigits_ne_nil, fun _ => Nat.isDigit_of_mem_toDigits (by decide) (by decide)⟩
  parts := ⟨[], [], (List.append_nil _).symm, .none, .none⟩

/-- Decimal digits are an integer if a word of sixty-four bits holds it. -/
theorem integer?_toDigits {value : Nat} (small : value < UInt64.size) :
    integer? ⟨false, Nat.toDigits 10 value, [], none⟩ = some (value : Int) := by
  have same : digitsValue (Nat.toDigits 10 value) = value := Nat.ofDigitChars_ten_toDigits
  simp [integer?, same, small]

end Overseer.Json.Numeral
