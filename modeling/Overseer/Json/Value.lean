import Overseer.Json.Tree

/-!
# JSON values

What a JSON text means once it is read as data: strings are texts, an object lists each key once in
ascending order with the last value given to it, and an integer that fits a word of sixty-four bits
is told apart from every other number. A tree means nothing if it nests too deeply, if a string in
it has an unpaired code unit, or if a number in it overflows.
-/
namespace Overseer

/-- A JSON value. -/
inductive Json where
  | null
  | bool (value : Bool)
  /-- An integer of a signed or unsigned word of sixty-four bits. -/
  | integer (value : Int)
  /-- Any other number, in double precision. -/
  | double (value : Double)
  | string (text : String)
  | array (items : List Json)
  /-- Members in ascending order of their keys, each key once. -/
  | object (members : List (String × Json))
deriving Repr, Inhabited

/-- Members in ascending order of their keys, each key once. -/
abbrev Document := List (String × Json)

namespace Document

/-- Give a key its value, replacing an earlier one. -/
def set (document : Document) (key : String) (value : Json) : Document :=
  match document with
  | [] => [(key, value)]
  | (other, held) :: rest =>
    if key < other then (key, value) :: (other, held) :: rest
    else if key = other then (key, value) :: rest
    else (other, held) :: set rest key value

/-- Remove a key with its value. -/
def erase (document : Document) (key : String) : Document :=
  document.filter fun (other, _) => other != key

/-- The value of a key. -/
def get? (document : Document) (key : String) : Option Json :=
  (document.find? fun (other, _) => other == key).map Prod.snd

/-- The document of members in any order, in which a later value of a key replaces an earlier
one. -/
def ofMembers (members : List (String × Json)) : Document :=
  members.foldl (fun document (key, value) => document.set key value) []

/-- A key that was given a value has it, and every other key has what it had. -/
theorem get?_set (document : Document) (key other : String) (value : Json) :
    (document.set key value).get? other =
      if other = key then some value else document.get? other := by
  induction document with
  | nil =>
    by_cases same : other = key
    · simp [set, get?, same]
    · simp [set, get?, same, Ne.symm same]
  | cons member rest ih =>
    obtain ⟨held, kept⟩ := member
    simp only [set]
    by_cases before : key < held
    · by_cases same : other = key
      · simp [before, get?, same]
      · simp [before, get?, same, Ne.symm same]
    · by_cases replaced : key = held
      · subst replaced
        by_cases same : other = key
        · simp [get?, same]
        · simp [get?, same, Ne.symm same]
      · simp only [before, replaced, ↓reduceIte]
        by_cases first : held = other
        · subst first
          simp [get?, Ne.symm replaced]
        · simpa [get?, first] using ih

end Document

namespace Json

/-- The deepest nesting of arrays and objects that is read as a value. -/
def nestingLimit : Nat := 127

mutual

/-- The number of arrays and objects around the innermost part of a tree, itself included. -/
def Tree.depth : Tree → Nat
  | .array items => Tree.depthOfItems items + 1
  | .object members => Tree.depthOfMembers members + 1
  | _ => 0

/-- The greatest depth of the items of an array. -/
def Tree.depthOfItems : List Tree → Nat
  | [] => 0
  | item :: rest => max item.depth (Tree.depthOfItems rest)

/-- The greatest depth of the values of an object. -/
def Tree.depthOfMembers : List (List Piece × Tree) → Nat
  | [] => 0
  | (_, value) :: rest => max value.depth (Tree.depthOfMembers rest)

end

mutual

/-- The value of a tree of any depth. -/
def ofTree? : Tree → Option Json
  | .null => some .null
  | .bool value => some (.bool value)
  | .number numeral =>
    match numeral.integer? with
    | some value => some (.integer value)
    | none => numeral.double?.map .double
  | .string pieces => (Piece.text? pieces).map .string
  | .array items => (ofItems? items).map .array
  | .object members => (ofMembers? members).map fun members => .object (Document.ofMembers members)

/-- The values of the items of an array. -/
def ofItems? : List Tree → Option (List Json)
  | [] => some []
  | item :: rest => do
    let item ← ofTree? item
    let rest ← ofItems? rest
    some (item :: rest)

/-- The keys and values of the members of an object, in the order they are written. -/
def ofMembers? : List (List Piece × Tree) → Option (List (String × Json))
  | [] => some []
  | (key, value) :: rest => do
    let key ← Piece.text? key
    let value ← ofTree? value
    let rest ← ofMembers? rest
    some ((key, value) :: rest)

end

/-- The value of a text that holds exactly one, nested no deeper than the limit. -/
def ofText? (text : String) : Option Json := do
  let tree ← Tree.ofText? text
  if tree.depth ≤ nestingLimit then ofTree? tree else none

/-- A value that is a natural number. -/
def natural? : Json → Option Nat
  | .integer (.ofNat value) => some value
  | _ => none

end Json

end Overseer
