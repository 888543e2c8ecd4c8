import Overseer.Json.Writer

/-!
# String literals

What stands between the quotes of a string literal is a grammar (`Spells`): visible characters,
letter escapes, and escapes of code units, of which the halves of a pair stand side by side. Between
the grammar and the reader stand the pieces of a literal (`Piece.Written`), which are read before it
is asked what text they are. A text that is written with its escapes spells that text.
-/
namespace Overseer.Json

/-! ### The grammar -/

/-- The letters that may be escaped, with what they stand for. -/
def letterEscapes : List (Char × Char) :=
  [('"', '"'), ('\\', '\\'), ('/', '/'), ('b', '\x08'), ('f', '\x0c'), ('n', '\n'), ('r', '\r'),
    ('t', '\t')]

/-- Whether a character is the digit of a value in base sixteen, in either case. -/
def IsHexDigit (digit : Char) (value : Nat) : Prop :=
  value < 16 ∧ (digit = Hexadecimal.digit value ∨ digit = (Hexadecimal.digit value).toUpper)

/-- Whether four characters are the digits of a code unit. -/
def IsUnit (digits : List Char) (unit : Nat) : Prop :=
  ∃ first second third fourth a b c d, digits = [first, second, third, fourth] ∧
    IsHexDigit first a ∧ IsHexDigit second b ∧ IsHexDigit third c ∧ IsHexDigit fourth d ∧
    unit = a * 0x1000 + b * 0x100 + c * 0x10 + d

/-- What stands between the quotes of a string literal, and the text that it spells. -/
inductive Spells : List Char → List Char → Prop
  /-- Nothing. -/
  | nil : Spells [] []
  /-- A character that stands for itself: no control character, no quote and no backslash. -/
  | plain {char : Char} {written text : List Char} (visible : 0x20 ≤ char.toNat)
      (unquoting : char ≠ '"') (unescaping : char ≠ '\\') (rest : Spells written text) :
      Spells (char :: written) (char :: text)
  /-- A letter escape. -/
  | letter {letter char : Char} {written text : List Char}
      (listed : (letter, char) ∈ letterEscapes) (rest : Spells written text) :
      Spells ('\\' :: letter :: written) (char :: text)
  /-- A code unit that is no half of a pair. -/
  | unit {digits written text : List Char} {unit : Nat} (digit : IsUnit digits unit)
      (whole : unit < 0xd800 ∨ 0xe000 ≤ unit) (rest : Spells written text) :
      Spells ('\\' :: 'u' :: (digits ++ written)) (Char.ofNat unit :: text)
  /-- A pair of code units. -/
  | pair {digits further written text : List Char} {high low : Nat} (first : IsUnit digits high)
      (second : IsUnit further low) (opens : 0xd800 ≤ high ∧ high < 0xdc00)
      (closes : 0xdc00 ≤ low ∧ low < 0xe000) (rest : Spells written text) :
      Spells ('\\' :: 'u' :: (digits ++ '\\' :: 'u' :: (further ++ written)))
        (Char.ofNat (0x10000 + 0x400 * (high - 0xd800) + (low - 0xdc00)) :: text)

/-- Whether a written text as a whole is a string literal, of the text that it spells. -/
def IsLiteral (written text : List Char) : Prop :=
  ∃ body, written = '"' :: (body ++ ['"']) ∧ Spells body text

/-! ### Pieces -/

namespace Piece

/-- The letter escapes that are read are those of the grammar. -/
theorem ofEscape?_eq_some_iff {letter char : Char} :
    ofEscape? letter = some char ↔ (letter, char) ∈ letterEscapes := by
  unfold ofEscape?
  split <;> simp_all [letterEscapes, eq_comm]

/-- The digits that are read are those of the grammar. -/
theorem value?_eq_some_iff {digit : Char} {value : Nat} :
    Hexadecimal.value? digit = some value ↔ IsHexDigit digit value := by
  constructor
  · intro read
    have named : Char.ofNat digit.toNat = digit := Char.ofNat_toNat digit
    unfold Hexadecimal.value? at read
    simp only [Char.le_def, UInt32.le_iff_toNat_le] at read
    change (if 48 ≤ digit.toNat ∧ digit.toNat ≤ 57 then some (digit.toNat - 48)
      else if 97 ≤ digit.toNat ∧ digit.toNat ≤ 102 then some (digit.toNat - 97 + 10)
      else if 65 ≤ digit.toNat ∧ digit.toNat ≤ 70 then some (digit.toNat - 65 + 10)
      else none) = some value at read
    generalize digit.toNat = code at named read
    subst named
    have all : ∀ code < 103, ∀ value < 16, ((48 ≤ code ∧ code ≤ 57 ∧ value = code - 48) ∨
        (97 ≤ code ∧ code ≤ 102 ∧ value = code - 97 + 10) ∨
        (65 ≤ code ∧ code ≤ 70 ∧ value = code - 65 + 10)) →
        Char.ofNat code = Hexadecimal.digit value ∨
          Char.ofNat code = (Hexadecimal.digit value).toUpper := by decide +kernel
    grind [IsHexDigit]
  · rintro ⟨small, same⟩
    have all : ∀ value < 16, Hexadecimal.value? (Hexadecimal.digit value) = some value ∧
        Hexadecimal.value? (Hexadecimal.digit value).toUpper = some value := by decide
    rcases same with rfl | rfl
    · exact (all value small).1
    · exact (all value small).2

/-- The code units that are read are those of the grammar. -/
theorem unit?_eq_some_iff {first second third fourth : Char} {unit : Nat} :
    unit? first second third fourth = some unit ↔
      IsUnit [first, second, third, fourth] unit := by
  simp only [unit?, Option.bind_eq_bind, Option.bind_eq_some_iff, value?_eq_some_iff,
    Option.some.injEq]
  constructor
  · rintro ⟨a, one, b, two, c, three, d, four, rfl⟩
    exact ⟨first, second, third, fourth, a, b, c, d, rfl, one, two, three, four, by omega⟩
  · rintro ⟨_, _, _, _, a, b, c, d, same, one, two, three, four, rfl⟩
    simp only [List.cons.injEq, and_true] at same
    obtain ⟨rfl, rfl, rfl, rfl⟩ := same
    exact ⟨a, one, b, two, c, three, d, four, by omega⟩

/-- What stands between the quotes of a string literal, piece by piece. -/
inductive Written : List Char → List Piece → Prop
  | nil : Written [] []
  | plain {char : Char} {written : List Char} {pieces : List Piece} (visible : 0x20 ≤ char.toNat)
      (unquoting : char ≠ '"') (unescaping : char ≠ '\\') (rest : Written written pieces) :
      Written (char :: written) (.character char :: pieces)
  | letter {letter char : Char} {written : List Char} {pieces : List Piece}
      (listed : (letter, char) ∈ letterEscapes) (rest : Written written pieces) :
      Written ('\\' :: letter :: written) (.character char :: pieces)
  | unit {digits written : List Char} {unit : Nat} {pieces : List Piece}
      (digit : IsUnit digits unit) (rest : Written written pieces) :
      Written ('\\' :: 'u' :: (digits ++ written)) (.escaped unit :: pieces)

/-- What is read up to a closing quote is written before it. -/
theorem written_of_read {text rest : List Char} {pieces : List Piece}
    (found : read text = some (pieces, rest)) :
    ∃ body, text = body ++ '"' :: rest ∧ Written body pieces := by
  fun_induction read text generalizing pieces with
  | case1 => contradiction
  | case2 tail =>
    simp only [Option.some.injEq, Prod.mk.injEq] at found
    obtain ⟨rfl, rfl⟩ := found
    exact ⟨[], rfl, .nil⟩
  | case3 first second third fourth tail ih =>
    simp only [Option.bind_eq_bind, Option.bind_eq_some_iff, Prod.exists, Option.some.injEq,
      Prod.mk.injEq] at found
    obtain ⟨unit, digits, inner, _, later, rfl, rfl⟩ := found
    obtain ⟨body, rfl, written⟩ := ih later
    exact ⟨_, rfl, .unit (unit?_eq_some_iff.mp digits) written⟩
  | case4 letter tail _ ih =>
    simp only [Option.bind_eq_bind, Option.bind_eq_some_iff, Prod.exists, Option.some.injEq,
      Prod.mk.injEq] at found
    obtain ⟨char, escape, inner, _, later, rfl, rfl⟩ := found
    obtain ⟨body, rfl, written⟩ := ih later
    exact ⟨_, rfl, .letter (ofEscape?_eq_some_iff.mp escape) written⟩
  | case5 => contradiction
  | case6 char tail unquoting _ _ plain ih =>
    simp only [Option.bind_eq_bind, Option.bind_eq_some_iff, Prod.exists, Option.some.injEq,
      Prod.mk.injEq] at found
    obtain ⟨inner, _, later, rfl, rfl⟩ := found
    obtain ⟨body, rfl, written⟩ := ih later
    rw [not_or, Nat.not_lt] at plain
    exact ⟨_, rfl, .plain plain.1 (fun same => unquoting same) plain.2 written⟩

/-- What is written before a closing quote is read up to it. -/
theorem read_of_written {body : List Char} {pieces : List Piece} (rest : List Char)
    (written : Written body pieces) : read (body ++ '"' :: rest) = some (pieces, rest) := by
  induction written with
  | nil => rfl
  | @plain char written pieces visible unquoting unescaping _ ih =>
    have shown : ¬(char.toNat < 0x20 ∨ char = '\\') := by
      rw [not_or, Nat.not_lt]
      exact ⟨visible, unescaping⟩
    rw [List.cons_append, read, if_neg shown, ih]
    · rfl
    · exact unquoting
    · exact fun _ _ _ _ _ same => absurd same unescaping
    · exact fun _ _ same => absurd same unescaping
  | letter listed _ ih =>
    rw [← ofEscape?_eq_some_iff] at listed
    rw [List.cons_append, List.cons_append, read, listed, ih]
    · rfl
    · -- No letter escape is that of a code unit.
      rintro _ _ _ _ _ rfl
      contradiction
  | unit digit _ ih =>
    obtain ⟨first, second, third, fourth, _, _, _, _, rfl, _⟩ := id digit
    rw [← unit?_eq_some_iff] at digit
    simp only [List.cons_append, List.nil_append]
    rw [read, digit, ih]
    rfl

/-- A code unit opens a pair exactly if it is a high half of one. -/
theorem opensPair_iff {unit : Nat} : opensPair unit = true ↔ 0xd800 ≤ unit ∧ unit < 0xdc00 := by
  simp [opensPair]

/-- A code unit closes a pair exactly if it is a low half of one. -/
theorem closesPair_iff {unit : Nat} : closesPair unit = true ↔ 0xdc00 ≤ unit ∧ unit < 0xe000 := by
  simp [closesPair]

/-- A code unit that is no half of a pair stands for a character by itself. -/
theorem characters?_unit {unit : Nat} (whole : unit < 0xd800 ∨ 0xe000 ≤ unit)
    (rest : List Piece) :
    characters? (.escaped unit :: rest) = (characters? rest).map (Char.ofNat unit :: ·) := by
  have opens : opensPair unit = false := by
    rw [Bool.eq_false_iff, ne_eq, opensPair_iff]
    omega
  have closes : closesPair unit = false := by
    rw [Bool.eq_false_iff, ne_eq, closesPair_iff]
    omega
  match rest with
  | [] => simp [characters?, opens, closes]
  | .character char :: rest => simp [characters?, opens, closes, Function.comp_def]
  | .escaped second :: rest => simp [characters?, opens, closes]

/-- A piece that is an escape is written as one. -/
theorem written_escaped {body : List Char} {unit : Nat} {rest : List Piece}
    (written : Written body (.escaped unit :: rest)) : ∃ digits further,
      body = '\\' :: 'u' :: (digits ++ further) ∧ IsUnit digits unit ∧ Written further rest := by
  cases written with
  | unit digit rest => exact ⟨_, _, rfl, digit, rest⟩

/-- A piece that is a character is written as itself or as a letter escape. -/
theorem written_character {body : List Char} {char : Char} {rest : List Piece}
    (written : Written body (.character char :: rest)) : ∃ further, Written further rest ∧
      ∀ text, Spells further text → Spells body (char :: text) := by
  cases written with
  | plain visible unquoting unescaping rest =>
    exact ⟨_, rest, fun _ spells => .plain visible unquoting unescaping spells⟩
  | letter listed rest => exact ⟨_, rest, fun _ spells => .letter listed spells⟩

/-- A unit that neither opens nor closes a pair is no half of one. -/
theorem whole_of_not {unit : Nat} (half : ¬(opensPair unit || closesPair unit) = true) :
    unit < 0xd800 ∨ 0xe000 ≤ unit := by
  rw [Bool.or_eq_true, opensPair_iff, closesPair_iff] at half
  omega

/-- The text of pieces is what their written form spells. -/
theorem spells_of_written {body text : List Char} {pieces : List Piece}
    (written : Written body pieces) (same : characters? pieces = some text) : Spells body text := by
  fun_induction characters? pieces generalizing body text with
  | case1 =>
    cases written
    obtain rfl : [] = text := Option.some.inj same
    exact .nil
  | case2 char rest ih =>
    obtain ⟨tail, found, rfl⟩ := Option.map_eq_some_iff.mp same
    obtain ⟨further, later, spells⟩ := written_character written
    exact spells tail (ih later found)
  | case3 | case6 | case7 | case9 => contradiction
  | case4 unit whole =>
    obtain rfl : [Char.ofNat unit] = text := Option.some.inj same
    obtain ⟨digits, further, rfl, digit, later⟩ := written_escaped written
    cases later
    exact .unit digit (whole_of_not whole) .nil
  | case5 high low rest opens closes ih =>
    obtain ⟨tail, found, rfl⟩ := Option.map_eq_some_iff.mp same
    obtain ⟨digits, further, rfl, first, later⟩ := written_escaped written
    obtain ⟨digits', last, rfl, second, rest⟩ := written_escaped later
    exact .pair first second (opensPair_iff.mp opens) (closesPair_iff.mp closes) (ih rest found)
  | case8 unit second rest opens closes ih =>
    obtain ⟨tail, found, rfl⟩ := Option.map_eq_some_iff.mp same
    obtain ⟨digits, further, rfl, digit, later⟩ := written_escaped written
    exact .unit digit (whole_of_not (by simp [opens, closes])) (ih later found)
  | case10 unit char rest whole ih =>
    obtain ⟨tail, found, rfl⟩ := Option.map_eq_some_iff.mp same
    obtain ⟨digits, further, rfl, digit, later⟩ := written_escaped written
    obtain ⟨last, rest, spells⟩ := written_character later
    exact .unit digit (whole_of_not whole) (spells tail (ih rest found))

/-- What a written form spells is the text of its pieces. -/
theorem written_of_spells {body text : List Char} (spells : Spells body text) :
    ∃ pieces, Written body pieces ∧ characters? pieces = some text := by
  induction spells with
  | nil => exact ⟨[], .nil, rfl⟩
  | plain visible unquoting unescaping _ ih =>
    obtain ⟨pieces, written, same⟩ := ih
    exact ⟨_, .plain visible unquoting unescaping written, by rw [characters?, same]; rfl⟩
  | letter listed _ ih =>
    obtain ⟨pieces, written, same⟩ := ih
    exact ⟨_, .letter listed written, by rw [characters?, same]; rfl⟩
  | unit digit whole _ ih =>
    obtain ⟨pieces, written, same⟩ := ih
    exact ⟨_, .unit digit written, by rw [characters?_unit whole, same]; rfl⟩
  | pair first second opens closes _ ih =>
    obtain ⟨pieces, written, same⟩ := ih
    refine ⟨_, .unit first (.unit second written), ?_⟩
    rw [characters?, if_pos (opensPair_iff.mpr opens), if_pos (closesPair_iff.mpr closes), same]
    rfl

/-- What stands between quotes is pieces of a text exactly if it spells that text. -/
theorem exists_written_iff {body : List Char} {text : String} :
    (∃ pieces, Written body pieces ∧ text? pieces = some text) ↔ Spells body text.toList := by
  constructor
  · rintro ⟨pieces, written, same⟩
    obtain ⟨letters, spelled, rfl⟩ := Option.map_eq_some_iff.mp same
    rw [String.toList_ofList]
    exact spells_of_written written spelled
  · intro spells
    obtain ⟨pieces, written, same⟩ := written_of_spells spells
    exact ⟨pieces, written, by rw [text?, same, Option.map_some, String.ofList_toList]⟩

end Piece

/-! ### Escaped texts -/

/-- Four digits in base sixteen are those of a code unit. -/
theorem isUnit_padded {unit : Nat} (small : unit < 0x10000) :
    IsUnit (Hexadecimal.padded 4 unit) unit := by
  have digit (value : Nat) : IsHexDigit (Hexadecimal.digit (value % 16)) (value % 16) :=
    ⟨Nat.mod_lt value (by decide), .inl rfl⟩
  exact ⟨_, _, _, _, _, _, _, _, rfl, digit _, digit _, digit _, digit _, by omega⟩

/-- An escaped text spells the text. -/
theorem spells_escape (text : List Char) : Spells (text.flatMap escape) text := by
  induction text with
  | nil => exact .nil
  | cons char rest ih =>
    rw [List.flatMap_cons]
    unfold escape
    split
    · rename_i quote
      rw [quote]
      exact .letter (by decide) ih
    · rename_i unquoting
      split
      · rename_i backslash
        rw [backslash]
        exact .letter (by decide) ih
      · rename_i unescaping
        split
        · rename_i control
          have small : char.toNat < 0x10000 := by omega
          have spells := Spells.unit (isUnit_padded small) (.inl (by omega)) ih
          rw [Char.ofNat_toNat] at spells
          exact spells
        · rename_i visible
          exact .plain (Nat.not_lt.mp visible) unquoting unescaping ih

end Overseer.Json
