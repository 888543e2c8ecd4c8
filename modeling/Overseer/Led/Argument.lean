import Overseer.Json.Value
import Overseer.Led
import Overseer.Text.Blank

/-!
# Arguments of the LED command

An argument names an action by a word, in any case of its letters: `on`, `true` or `1`; `off`,
`false` or `0`; `toggle`. The word may stand bare or be a JSON string; a JSON boolean or integer is
taken for what it is, and every other JSON number is refused. Blanks around the argument are
ignored, blanks inside a JSON string are not.
-/
namespace Overseer.LedAction

/-- The action of a word in lower case. -/
def ofLowerWord? (word : String) : Option LedAction :=
  if word = "on" ∨ word = "true" ∨ word = "1" then some .on
  else if word = "off" ∨ word = "false" ∨ word = "0" then some .off
  else if word = "toggle" then some .toggle
  else none

/-- The action of a word; only the letters of ASCII have two cases. -/
def ofWord? (word : String) : Option LedAction := ofLowerWord? (word.map Char.toLower)

/-- The action of an integer. -/
def ofInteger? : Int → Option LedAction
  | 1 => some .on
  | 0 => some .off
  | _ => none

/-- The action of an argument. -/
def ofArgument? (argument : String) : Option LedAction :=
  let stripped := String.ofList (Text.strip argument.toList)
  match Json.ofText? stripped with
  | some (.string word) => ofWord? word
  | some (.bool true) => some .on
  | some (.bool false) => some .off
  | some (.integer value) => ofInteger? value
  | some (.double _) => none
  | _ => ofWord? stripped

end Overseer.LedAction
