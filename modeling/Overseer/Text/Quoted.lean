import Overseer.Text.Combining
import Overseer.Text.Hexadecimal
import Overseer.Text.Invisible

/-!
# Quoted text

Text that came from outside is logged between double quotes, with everything that would not be seen
as itself written as an escape: a backslash and a quote are escaped by a backslash, five control
characters have a letter, and any other invisible or combining character is given by its code
point. An apostrophe stands for itself.
-/
namespace Overseer.Text

/-- A character as it stands between the quotes. -/
def escape (char : Char) : List Char :=
  match char with
  | '\x00' => ['\\', '0']
  | '\t' => ['\\', 't']
  | '\n' => ['\\', 'n']
  | '\r' => ['\\', 'r']
  | '"' => ['\\', '"']
  | '\\' => ['\\', '\\']
  | other =>
    if isCombining other || isInvisible other then
      ['\\', 'u', '\x7b'] ++ Hexadecimal.shortest other.toNat ++ ['\x7d']
    else [other]

/-- A text between double quotes, escaped. -/
def quote (text : String) : String :=
  String.ofList ('"' :: text.toList.flatMap escape ++ ['"'])

/-- An optional text: the word `None`, or the quoted text in the word `Some`. -/
def quoteOption : Option String → String
  | none => "None"
  | some text => "Some(" ++ quote text ++ ")"

end Overseer.Text
