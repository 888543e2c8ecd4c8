import Overseer.Json.Token

/-!
# Syntax trees of JSON text

The nesting of a JSON text, with everything in it as it is written: members keep their order and
their repetitions, numerals their digits, strings their escapes. A tree is read from tokens by a
machine that holds the arrays and objects not yet closed, so a text may nest to any depth.
-/
namespace Overseer.Json

/-- The syntax of one value. -/
inductive Tree where
  | null
  | bool (value : Bool)
  | number (numeral : Numeral)
  | string (pieces : List Piece)
  | array (items : List Tree)
  | object (members : List (List Piece × Tree))
deriving Repr

namespace Tree

/-- An array or object whose end has not been read; its parts are held last first. -/
inductive Frame where
  /-- An array with its finished items. -/
  | array (items : List Tree)
  /-- An object with its finished members and the key of the member being read. -/
  | object (members : List (List Piece × Tree)) (key : List Piece)

/-- What the tokens read so far ask for next. -/
inductive State where
  /-- A value. -/
  | value (frames : List Frame)
  /-- The first item of an array, or its end. -/
  | firstItem (frames : List Frame)
  /-- The first key of an object, or its end. -/
  | firstKey (frames : List Frame)
  /-- A further key of an object. -/
  | key (frames : List Frame) (members : List (List Piece × Tree))
  /-- The colon after a key. -/
  | colon (frames : List Frame) (members : List (List Piece × Tree)) (key : List Piece)
  /-- What may follow a finished value. -/
  | finished (tree : Tree) (frames : List Frame)

/-- Read a token where a value must stand. -/
def stepValue (frames : List Frame) : Token → Option State
  | .null => some (.finished .null frames)
  | .bool value => some (.finished (.bool value) frames)
  | .number numeral => some (.finished (.number numeral) frames)
  | .string pieces => some (.finished (.string pieces) frames)
  | .openArray => some (.firstItem frames)
  | .openObject => some (.firstKey frames)
  | _ => none

/-- Read one token. -/
def step : State → Token → Option State
  | .value frames, token => stepValue frames token
  | .firstItem frames, .closeArray => some (.finished (.array []) frames)
  | .firstItem frames, token => stepValue (.array [] :: frames) token
  | .firstKey frames, .closeObject => some (.finished (.object []) frames)
  | .firstKey frames, .string key => some (.colon frames [] key)
  | .key frames members, .string key => some (.colon frames members key)
  | .colon frames members key, .colon => some (.value (.object members key :: frames))
  | .finished item (.array items :: frames), .comma =>
    some (.value (.array (item :: items) :: frames))
  | .finished item (.array items :: frames), .closeArray =>
    some (.finished (.array (item :: items).reverse) frames)
  | .finished value (.object members key :: frames), .comma =>
    some (.key frames ((key, value) :: members))
  | .finished value (.object members key :: frames), .closeObject =>
    some (.finished (.object ((key, value) :: members).reverse) frames)
  | _, _ => none

/-- The tree of a token sequence that holds exactly one value. -/
def ofTokens? (tokens : List Token) : Option Tree :=
  match tokens.foldlM step (.value []) with
  | some (.finished tree []) => some tree
  | _ => none

/-- The tree of a text that holds exactly one value. -/
def ofText? (text : String) : Option Tree := Token.scan text.toList >>= ofTokens?

end Tree

end Overseer.Json
