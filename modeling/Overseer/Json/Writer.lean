import Overseer.Double.Decimal
import Overseer.Json.Value

/-!
# Writing JSON

A value is written without blanks. In a string, quotes, backslashes and the control characters of
ASCII are escaped; every other character stands for itself. A number in double precision is written
with the fewest digits that identify it, and always with a point or an exponent, so that it is not
taken for an integer.
-/
namespace Overseer.Json

/-- A character as it stands in a string. -/
def escape (char : Char) : List Char :=
  if char = '"' then ['\\', '"']
  else if char = '\\' then ['\\', '\\']
  else if char.toNat < 0x20 then '\\' :: 'u' :: Hexadecimal.padded 4 char.toNat
  else [char]

/-- A string with its quotes. -/
def renderString (text : String) : String :=
  String.ofList ('"' :: text.toList.flatMap escape ++ ['"'])

/-- The greatest number of places before the point of a number without an exponent. -/
def plainPlaces : Int := 16

/-- The greatest number of zeros between the point and the first digit of a number without an
exponent. -/
def plainZeros : Int := 4

/-- A run of zeros. -/
def zeros (count : Int) : List Char := List.replicate count.toNat '0'

/-- Digits with a point somewhere before, between or behind them; the place of the point is counted
from the first digit. -/
def renderPlain (digits : List Char) (point : Int) : List Char :=
  if (digits.length : Int) ≤ point then digits ++ zeros (point - digits.length) ++ ['.', '0']
  else if 0 < point then digits.take point.toNat ++ '.' :: digits.drop point.toNat
  else '0' :: '.' :: zeros (-point) ++ digits

/-- Digits with a point after the first one, if there are more, and an exponent. -/
def renderScaled (digits : List Char) (point : Int) : List Char :=
  let fraction := if digits.length ≤ 1 then [] else '.' :: digits.drop 1
  digits.take 1 ++ fraction ++ 'e' :: (toString (point - 1)).toList

/-- The text of a number in double precision. -/
def renderDouble (double : Double) : String :=
  let decimal := double.shortest
  let digits := (toString decimal.digits).toList
  let point := digits.length + decimal.power
  let text :=
    if double.isZero then ['0', '.', '0']
    else if -plainZeros ≤ point ∧ point ≤ plainPlaces then renderPlain digits point
    else renderScaled digits point
  String.ofList (if double.negative then '-' :: text else text)

mutual

/-- The text of a value. -/
def render : Json → String
  | .null => "null"
  | .bool true => "true"
  | .bool false => "false"
  | .integer value => toString value
  | .double value => renderDouble value
  | .string text => renderString text
  | .array items => "[" ++ ",".intercalate (renderItems items) ++ "]"
  | .object members => "\x7b" ++ ",".intercalate (renderMembers members) ++ "\x7d"

/-- The texts of the items of an array. -/
def renderItems : List Json → List String
  | [] => []
  | item :: rest => render item :: renderItems rest

/-- The texts of the members of an object. -/
def renderMembers : List (String × Json) → List String
  | [] => []
  | (key, value) :: rest => (renderString key ++ ":" ++ render value) :: renderMembers rest

end

end Overseer.Json
