import Overseer.Json.Numeral
import Overseer.Text.Hexadecimal

/-!
# Tokens of JSON text

A JSON text is a sequence of punctuation marks, words, numerals and strings with blanks between
them. A string keeps its escapes as they are written, since a four-digit escape may be half of a
pair: whether the string is a text is asked later, by those who use it as one.
-/
namespace Overseer.Json

/-- A part of a string as it is written. -/
inductive Piece where
  /-- A character, written as itself or by a letter escape. -/
  | character (char : Char)
  /-- A code unit of sixteen bits, written by a four-digit escape. -/
  | escaped (unit : Nat)
deriving DecidableEq, Repr

namespace Piece

/-- The character that a letter escape stands for. -/
def ofEscape? : Char → Option Char
  | '"' => some '"'
  | '\\' => some '\\'
  | '/' => some '/'
  | 'b' => some '\x08'
  | 'f' => some '\x0c'
  | 'n' => some '\n'
  | 'r' => some '\r'
  | 't' => some '\t'
  | _ => none

/-- The code unit of four hexadecimal digits. -/
def unit? (first second third fourth : Char) : Option Nat := do
  let first ← Hexadecimal.value? first
  let second ← Hexadecimal.value? second
  let third ← Hexadecimal.value? third
  let fourth ← Hexadecimal.value? fourth
  some (16 * (16 * (16 * first + second) + third) + fourth)

/-- The pieces up to the closing quote, and the text after it. Control characters of ASCII may not
stand for themselves. -/
def read : List Char → Option (List Piece × List Char)
  | [] => none
  | '"' :: rest => some ([], rest)
  | '\\' :: 'u' :: first :: second :: third :: fourth :: rest => do
    let unit ← unit? first second third fourth
    let (pieces, tail) ← read rest
    some (.escaped unit :: pieces, tail)
  | '\\' :: letter :: rest => do
    let char ← ofEscape? letter
    let (pieces, tail) ← read rest
    some (.character char :: pieces, tail)
  | char :: rest =>
    if char.toNat < 0x20 ∨ char = '\\' then none
    else do
      let (pieces, tail) ← read rest
      some (.character char :: pieces, tail)

/-- Whether a code unit opens a pair. -/
def opensPair (unit : Nat) : Bool := 0xd800 ≤ unit && unit < 0xdc00

/-- Whether a code unit closes a pair. -/
def closesPair (unit : Nat) : Bool := 0xdc00 ≤ unit && unit < 0xe000

/-- The characters of a string. A unit that opens a pair must be followed at once by one that
closes it, and a unit may not close a pair that was not opened. -/
def characters? : List Piece → Option (List Char)
  | [] => some []
  | .character char :: rest => (characters? rest).map (char :: ·)
  | [.escaped unit] => if opensPair unit || closesPair unit then none else some [Char.ofNat unit]
  | .escaped first :: .escaped second :: rest =>
    if opensPair first then
      if closesPair second then
        (characters? rest).map
          (Char.ofNat (0x10000 + 0x400 * (first - 0xd800) + (second - 0xdc00)) :: ·)
      else none
    else if closesPair first then none
    else (characters? (.escaped second :: rest)).map (Char.ofNat first :: ·)
  | .escaped unit :: .character char :: rest =>
    if opensPair unit || closesPair unit then none
    else (characters? rest).map (Char.ofNat unit :: char :: ·)

/-- The text of a string, if its units pair up. -/
def text? (pieces : List Piece) : Option String := (characters? pieces).map String.ofList

/-- A string takes its closing quote from the text. -/
theorem read_shorter {text rest : List Char} {pieces : List Piece}
    (found : read text = some (pieces, rest)) : rest.length < text.length := by
  fun_induction read text generalizing pieces with
  | case1 => contradiction
  | case2 tail =>
    simp only [Option.some.injEq, Prod.mk.injEq] at found
    simp [← found.2]
  | case3 first second third fourth tail ih =>
    simp only [Option.bind_eq_bind, Option.bind_eq_some_iff, Prod.exists, Option.some.injEq,
      Prod.mk.injEq] at found
    obtain ⟨_, _, _, _, inner, _, rfl⟩ := found
    have := ih inner
    simp only [List.length_cons]
    omega
  | case4 letter tail _ ih =>
    simp only [Option.bind_eq_bind, Option.bind_eq_some_iff, Prod.exists, Option.some.injEq,
      Prod.mk.injEq] at found
    obtain ⟨_, _, _, _, inner, _, rfl⟩ := found
    have := ih inner
    simp only [List.length_cons]
    omega
  | case5 => contradiction
  | case6 char tail _ _ _ _ ih =>
    simp only [Option.bind_eq_bind, Option.bind_eq_some_iff, Prod.exists, Option.some.injEq,
      Prod.mk.injEq] at found
    obtain ⟨_, _, inner, _, rfl⟩ := found
    have := ih inner
    simp only [List.length_cons]
    omega

end Piece

/-- A mark, word, numeral or string of a JSON text. -/
inductive Token where
  | openArray
  | closeArray
  | openObject
  | closeObject
  | comma
  | colon
  | null
  | bool (value : Bool)
  | number (numeral : Numeral)
  | string (pieces : List Piece)
deriving DecidableEq, Repr

namespace Token

/-- The blanks that may stand between tokens. -/
def isBlank (char : Char) : Bool :=
  char == ' ' || char == '\t' || char == '\n' || char == '\r'

/-- The token at the front of a text. -/
def read : List Char → Option (Token × List Char)
  | '[' :: rest => some (.openArray, rest)
  | ']' :: rest => some (.closeArray, rest)
  | '\x7b' :: rest => some (.openObject, rest)
  | '\x7d' :: rest => some (.closeObject, rest)
  | ',' :: rest => some (.comma, rest)
  | ':' :: rest => some (.colon, rest)
  | 'n' :: 'u' :: 'l' :: 'l' :: rest => some (.null, rest)
  | 't' :: 'r' :: 'u' :: 'e' :: rest => some (.bool true, rest)
  | 'f' :: 'a' :: 'l' :: 's' :: 'e' :: rest => some (.bool false, rest)
  | '"' :: rest => (Piece.read rest).map fun (pieces, tail) => (.string pieces, tail)
  | text => (Numeral.read text).map fun (numeral, tail) => (.number numeral, tail)

/-- A token takes at least one character from the front of the text. -/
theorem read_shorter {text rest : List Char} {token : Token}
    (found : read text = some (token, rest)) : rest.length < text.length := by
  unfold read at found
  split at found
  case h_10 =>
    simp only [Option.map_eq_some_iff, Prod.mk.injEq, Prod.exists] at found
    obtain ⟨_, _, inner, _, rfl⟩ := found
    have := Piece.read_shorter inner
    simp only [List.length_cons]
    omega
  case h_11 =>
    simp only [Option.map_eq_some_iff, Prod.mk.injEq, Prod.exists] at found
    obtain ⟨_, _, inner, _, rfl⟩ := found
    exact Numeral.read_shorter inner
  all_goals
    simp only [Option.some.injEq, Prod.mk.injEq] at found
    simp only [← found.2, List.length_cons]
    omega

/-- The tokens of a whole text. -/
def scan : List Char → Option (List Token)
  | [] => some []
  | char :: rest =>
    if isBlank char then scan rest
    else
      match _found : read (char :: rest) with
      | none => none
      | some (token, tail) => (scan tail).map (token :: ·)
termination_by text => text.length
decreasing_by
  · simp
  · exact read_shorter _found

end Token

end Overseer.Json
