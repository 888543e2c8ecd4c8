import Overseer.Proofs.Grammar

/-!
# Literals of JSON text

A text that is a value without parts is one token and nothing else, apart from blanks around it.
`ofText?_eq_some_iff` says so for every text without such blanks: a string is a literal of its text,
and an integer below ten its digit.
-/
namespace Overseer.Json

/-! ### Texts of one token -/

/-- The syntax of a value that is one token. -/
def Token.scalar? : Token → Option Tree
  | .null => some .null
  | .bool value => some (.bool value)
  | .number numeral => some (.number numeral)
  | .string pieces => some (.string pieces)
  | _ => none

namespace Token

/-- A text that is laid out from no tokens is blank. -/
theorem isBlank_of_laid {text : List Char} (laid : Laid text []) :
    ∀ char ∈ text, isBlank char = true := by
  generalize none : ([] : List Token) = tokens at laid
  induction laid with
  | nil => exact fun char listed => by contradiction
  | blank blank _ ih => exact List.forall_mem_cons.mpr ⟨blank, ih none⟩
  | token => contradiction

/-- A text that neither begins nor ends with a blank. -/
structure IsBare (text : List Char) : Prop where
  head : ∀ char ∈ text.head?, isBlank char = false
  last : ∀ char ∈ text.getLast?, isBlank char = false

/-- A bare text is laid out from one token exactly if all of it is that token. -/
theorem laid_singleton_iff {text : List Char} {token : Token} (bare : IsBare text) :
    Laid text [token] ↔ Written text token := by
  refine ⟨fun laid => ?_, Written.laid⟩
  cases laid with
  | blank blank _ =>
    have visible := bare.head _ rfl
    rw [blank] at visible
    contradiction
  | @token word rest _ _ written later =>
    -- What is left is blank, and the text does not end with a blank.
    by_cases empty : rest = []
    · rw [empty, List.append_nil]
      exact written
    · have ends : (word ++ rest).getLast? = some (rest.getLast empty) := by
        rw [List.getLast?_append, List.getLast?_eq_some_getLast empty, Option.some_or]
      have visible := bare.last _ ends
      rw [isBlank_of_laid later _ (List.getLast_mem empty)] at visible
      contradiction

end Token

namespace Tree

/-- Whether a tree has no parts. -/
def IsScalar : Tree → Prop
  | .array _ | .object _ => False
  | _ => True

/-- The only token of a tree without parts is that scalar, and no other token is. -/
theorem tokens_of_isScalar {tree : Tree} (scalar : tree.IsScalar) :
    ∃ token, tree.tokens = [token] ∧ ∀ other, other.scalar? = some tree ↔ other = token := by
  cases tree with
  | array => contradiction
  | object => contradiction
  | _ => exact ⟨_, rfl, fun other => by cases other <;> simp [Token.scalar?]⟩

/-- A text without blanks around it is a scalar exactly if all of it is one token, which is that
scalar. -/
theorem ofText?_eq_some_iff {text : String} {tree : Tree} (bare : Token.IsBare text.toList)
    (scalar : tree.IsScalar) : ofText? text = some tree ↔
      ∃ token, Token.Written text.toList token ∧ token.scalar? = some tree := by
  obtain ⟨token, single, only⟩ := tokens_of_isScalar scalar
  simp only [ofText?_eq_some_iff_laid, single, Token.laid_singleton_iff bare, only,
    exists_eq_right]

end Tree

namespace Token

/-- A string is written as a literal of its pieces. -/
theorem written_string_iff {text : List Char} {pieces : List Piece} :
    Written text (.string pieces) ↔
      ∃ body, text = '"' :: (body ++ ['"']) ∧ Piece.Written body pieces := by
  constructor
  · rintro ⟨⟩
    exact ⟨_, rfl, ‹_›⟩
  · rintro ⟨body, rfl, written⟩
    exact .string written

/-- A truth value is written as its word. -/
theorem written_bool_iff {text : List Char} {value : Bool} :
    Written text (.bool value) ↔ text = (toString value).toList := by
  constructor
  · rintro ⟨⟩
    rfl
  · rintro rfl
    exact .bool value

/-- A number is written as a numeral. -/
theorem written_number_iff {text : List Char} {numeral : Numeral} :
    Written text (.number numeral) ↔ Numeral.Written text numeral := by
  constructor
  · rintro ⟨⟩
    assumption
  · exact .number

end Token

/-! ### Values without parts -/

/-- Whether a value has no parts. -/
def IsScalar : Json → Prop
  | .array _ | .object _ => False
  | _ => True

/-- Only a tree without parts stands for a value without parts. -/
theorem isScalar_of_ofTree {tree : Tree} {value : Json} (found : ofTree? tree = some value)
    (scalar : value.IsScalar) : tree.IsScalar := by
  cases tree with
  | array items =>
    rw [ofTree?, Option.map_eq_some_iff] at found
    obtain ⟨_, _, rfl⟩ := found
    exact scalar
  | object members =>
    rw [ofTree?, Option.map_eq_some_iff] at found
    obtain ⟨_, _, rfl⟩ := found
    exact scalar
  | _ => trivial

/-- The value of a token, if it is one without parts. -/
def Token.value? (token : Token) : Option Json := token.scalar?.bind ofTree?

/-- A text without blanks around it is a value without parts exactly if all of it is one token of
that value. -/
theorem ofText?_eq_some_iff {text : String} {value : Json} (bare : Token.IsBare text.toList)
    (scalar : value.IsScalar) : ofText? text = some value ↔
      ∃ token, Token.Written text.toList token ∧ token.value? = some value := by
  rw [ofText?, Option.bind_eq_bind, Option.bind_eq_some_iff]
  constructor
  · rintro ⟨tree, found, same⟩
    split at same
    · obtain ⟨token, whole, tree'⟩ :=
        (Tree.ofText?_eq_some_iff bare (isScalar_of_ofTree same scalar)).mp found
      exact ⟨token, whole, by rw [Token.value?, tree', Option.bind_some, same]⟩
    · contradiction
  · rintro ⟨token, whole, meant⟩
    obtain ⟨tree, found, same⟩ := Option.bind_eq_some_iff.mp meant
    have flat := isScalar_of_ofTree same scalar
    refine ⟨tree, (Tree.ofText?_eq_some_iff bare flat).mpr ⟨token, whole, found⟩, ?_⟩
    have depth : tree.depth = 0 := by cases tree <;> first | rfl | exact absurd flat id
    rw [depth, if_pos (Nat.zero_le _), same]

/-- The tokens of a string are strings with that text. -/
theorem Token.value?_eq_string_iff {token : Token} {word : String} :
    token.value? = some (.string word) ↔
      ∃ pieces, token = .string pieces ∧ Piece.text? pieces = some word := by
  cases token with
  | number numeral =>
    simp only [value?, scalar?, Option.bind_some, ofTree?, reduceCtorEq, false_and, exists_false,
      iff_false]
    split <;> simp
  | _ => simp [value?, scalar?, ofTree?]

/-- The token of a truth value is its word. -/
theorem Token.value?_eq_bool_iff {token : Token} {value : Bool} :
    token.value? = some (.bool value) ↔ token = .bool value := by
  cases token with
  | number numeral =>
    simp only [value?, scalar?, Option.bind_some, ofTree?, reduceCtorEq, iff_false]
    split <;> simp
  | _ => simp [value?, scalar?, ofTree?]

/-- The tokens of an integer are numerals of it. -/
theorem Token.value?_eq_integer_iff {token : Token} {value : Int} :
    token.value? = some (.integer value) ↔
      ∃ numeral, token = .number numeral ∧ numeral.integer? = some value := by
  cases token with
  | number numeral =>
    simp only [value?, scalar?, Option.bind_some, ofTree?, Token.number.injEq, exists_eq_left']
    split <;> simp_all
  | _ => simp [value?, scalar?, ofTree?]

/-- Whether a value is a number. -/
def IsNumber : Json → Prop
  | .integer _ | .double _ => True
  | _ => False

/-- The tokens of a number are numerals. -/
theorem Token.number_of_value? {token : Token} {value : Json} (meant : token.value? = some value)
    (number : value.IsNumber) : ∃ numeral, token = .number numeral := by
  cases token with
  | number numeral => exact ⟨numeral, rfl⟩
  | null | bool =>
    cases meant
    contradiction
  | string pieces =>
    obtain ⟨word, _, rfl⟩ := Option.map_eq_some_iff.mp meant
    contradiction
  | _ => contradiction

/-- A text without blanks around it is a JSON string exactly if it is a literal, of the text that it
spells. -/
theorem ofText?_eq_string_iff {text word : String} (bare : Token.IsBare text.toList) :
    ofText? text = some (.string word) ↔ IsLiteral text.toList word.toList := by
  have scalar : (Json.string word).IsScalar := trivial
  simp only [ofText?_eq_some_iff bare scalar, Token.value?_eq_string_iff]
  constructor
  · rintro ⟨_, whole, pieces, rfl, same⟩
    obtain ⟨body, start, written⟩ := Token.written_string_iff.mp whole
    exact ⟨body, start, Piece.exists_written_iff.mp ⟨pieces, written, same⟩⟩
  · rintro ⟨body, start, spells⟩
    obtain ⟨pieces, written, same⟩ := Piece.exists_written_iff.mpr spells
    exact ⟨_, Token.written_string_iff.mpr ⟨body, start, written⟩, pieces, rfl, same⟩

/-- A text without blanks around it is a truth value exactly if it is its word. -/
theorem ofText?_eq_bool_iff {text : String} {value : Bool} (bare : Token.IsBare text.toList) :
    ofText? text = some (.bool value) ↔ text = toString value := by
  have scalar : (Json.bool value).IsScalar := trivial
  simp only [ofText?_eq_some_iff bare scalar, Token.value?_eq_bool_iff, exists_eq_right,
    Token.written_bool_iff, String.toList_inj]

/-- A text without blanks around it that is a number begins with a minus sign or a digit. -/
theorem head_of_number {text : String} {value : Json} (bare : Token.IsBare text.toList)
    (found : ofText? text = some value) (number : value.IsNumber) :
    ∃ first more, text.toList = first :: more ∧ (first = '-' ∨ first.isDigit = true) := by
  have scalar : value.IsScalar := by cases value <;> trivial
  obtain ⟨token, whole, meant⟩ := (ofText?_eq_some_iff bare scalar).mp found
  obtain ⟨numeral, rfl⟩ := Token.number_of_value? meant number
  exact (Token.written_number_iff.mp whole).head

/-- A text without blanks around it is an integer below ten exactly if it is its digit. -/
theorem ofText?_eq_digit_iff {text : String} {value : Nat} (bare : Token.IsBare text.toList)
    (small : value < 10) :
    ofText? text = some (.integer value) ↔ text.toList = [Char.ofNat ('0'.toNat + value)] := by
  have scalar : (Json.integer value).IsScalar := trivial
  simp only [ofText?_eq_some_iff bare scalar, Token.value?_eq_integer_iff]
  constructor
  · rintro ⟨_, whole, numeral, rfl, integer⟩
    have written := Token.written_number_iff.mp whole
    obtain ⟨positive, plain, unscaled, same⟩ := Numeral.of_integer?_eq_natural integer
    have digit := Numeral.eq_of_digitsValue written.whole (same.symm ▸ small)
    rw [same] at digit
    rw [written.eq_opening plain unscaled, Numeral.opening, positive, digit]
    rfl
  · intro digit
    have all : ∀ value < 10, [Char.ofNat ('0'.toNat + value)] = Nat.toDigits 10 value := by decide
    rw [digit, all value small]
    refine ⟨_, Token.written_number_iff.mpr (Numeral.written_toDigits value), _, rfl, ?_⟩
    exact Numeral.integer?_toDigits (Nat.lt_trans small (by decide))

end Overseer.Json
