import Overseer.Led.Argument
import Overseer.Proofs.Literals

/-!
# The grammar of LED arguments

An argument denotes an action if it is one of the words of the action, in any case of its letters,
or a JSON string literal of such a word, with blanks around it in either case. That is all:
`parses_exactly` says that an argument is read as the action that it denotes, and that it is refused
if it denotes none. A JSON boolean or integer adds nothing to this, since the only ones that are
taken are written like words.
-/
namespace Overseer

/-! ### Stripped text -/

namespace Text

/-- Whether a text is another one without the blanks around it. -/
def IsStripped (whole stripped : List Char) : Prop :=
  ∃ front back, whole = front ++ stripped ++ back ∧ (∀ char ∈ front, isBlank char = true) ∧
    (∀ char ∈ back, isBlank char = true) ∧ (∀ char ∈ stripped.head?, isBlank char = false) ∧
    ∀ char ∈ stripped.getLast?, isBlank char = false

/-- A text that does not begin with a blank keeps its front. -/
theorem dropWhile_of_head {text : List Char} (head : ∀ char ∈ text.head?, isBlank char = false) :
    text.dropWhile isBlank = text := by
  cases text with
  | nil => rfl
  | cons first more => rw [List.dropWhile_cons_of_neg (by simp [head first rfl])]

/-- Stripping gives the one text that is stripped of the blanks around it. -/
theorem strip_eq_iff {whole stripped : List Char} :
    strip whole = stripped ↔ IsStripped whole stripped := by
  constructor
  · rintro rfl
    have blank (letters : List Char) : ∀ char ∈ letters.takeWhile isBlank, isBlank char = true :=
      List.all_eq_true.mp List.all_takeWhile
    refine ⟨whole.takeWhile isBlank, ((whole.dropWhile isBlank).reverse.takeWhile isBlank).reverse,
      ?_, blank whole, fun char member => blank _ char (List.mem_reverse.mp member),
      fun char first => head?_strip whole char first, fun char last => ?_⟩
    · rw [strip, List.append_assoc, ← List.reverse_append, List.takeWhile_append_dropWhile,
        List.reverse_reverse, List.takeWhile_append_dropWhile]
    · rw [strip, List.getLast?_reverse] at last
      have := List.head?_dropWhile_not isBlank (whole.dropWhile isBlank).reverse
      rw [Option.mem_def.mp last] at this
      exact this
  · rintro ⟨front, back, rfl, leading, trailing, head, last⟩
    have trailing' : ∀ char ∈ back.reverse, isBlank char = true :=
      fun char member => trailing char (List.mem_reverse.mp member)
    rw [strip, List.append_assoc, List.dropWhile_append_of_pos leading]
    by_cases empty : stripped = []
    · rw [empty, List.nil_append, ← List.append_nil back, List.dropWhile_append_of_pos trailing]
      rfl
    · have start : (stripped ++ back).dropWhile isBlank = stripped ++ back := by
        apply dropWhile_of_head
        rwa [List.head?_append, List.head?_eq_some_head empty, Option.some_or,
          ← List.head?_eq_some_head empty]
      rw [start, List.reverse_append, List.dropWhile_append_of_pos trailing', dropWhile_of_head,
        List.reverse_reverse]
      rwa [List.head?_reverse]

end Text

namespace LedAction

/-! ### Words -/

/-- The words of an action. -/
def words : LedAction → List String
  | .on => ["on", "true", "1"]
  | .off => ["off", "false", "0"]
  | .toggle => ["toggle"]

/-- Whether a word names an action, up to the case of the letters of ASCII. -/
def IsNamedBy (action : LedAction) (word : String) : Prop := word.map Char.toLower ∈ action.words

/-- Whether a text denotes an action: it names the action, or it is a JSON string literal of a word
that does. -/
def IsWritten (action : LedAction) (text : String) : Prop :=
  action.IsNamedBy text ∨
    ∃ word : String, Json.IsLiteral text.toList word.toList ∧ action.IsNamedBy word

/-- Whether an argument denotes an action by the text between the blanks around it. -/
def Denotes (argument : String) (action : LedAction) : Prop :=
  ∃ text : String, Text.IsStripped argument.toList text.toList ∧ action.IsWritten text

/-- A word is read as the action that it names. -/
theorem ofWord?_eq_some_iff {word : String} {action : LedAction} :
    ofWord? word = some action ↔ action.IsNamedBy word := by
  unfold ofWord? ofLowerWord? IsNamedBy
  generalize word.map Char.toLower = lower
  cases action <;> grind [words]

/-- The words of an action, letter by letter. -/
theorem isNamedBy_iff {action : LedAction} {word : String} : action.IsNamedBy word ↔
    word.toList.map Char.toLower ∈ action.words.map String.toList := by
  simp [IsNamedBy, ← String.toList_map, List.mem_map, String.toList_inj]

/-- A word that begins like a number names an action only if it is one of two digits. -/
theorem isNamedBy_of_digit {action : LedAction} {word : String} {first : Char} {more : List Char}
    (spelled : word.toList = first :: more) (start : first = '-' ∨ first.isDigit = true)
    (named : action.IsNamedBy word) :
    word.toList = ['1'] ∧ action = .on ∨ word.toList = ['0'] ∧ action = .off := by
  have lower : first.toLower = first := by
    rcases start with rfl | digit
    · rfl
    · simp only [Char.isDigit, Bool.and_eq_true, decide_eq_true_eq] at digit
      unfold Char.toLower
      grind
  rw [isNamedBy_iff, spelled, List.map_cons, lower] at named
  rw [spelled]
  -- Of the words, only the digits begin like a number.
  cases action with
  | on =>
    obtain ⟨rfl, _⟩ | ⟨rfl, _⟩ | ⟨rfl, rfl⟩ : first = 'o' ∧ more.map Char.toLower = ['n'] ∨
        first = 't' ∧ more.map Char.toLower = ['r', 'u', 'e'] ∨ first = '1' ∧ more = [] := by
      simpa [words] using named
    all_goals simp_all
  | off =>
    obtain ⟨rfl, _⟩ | ⟨rfl, _⟩ | ⟨rfl, rfl⟩ : first = 'o' ∧ more.map Char.toLower = ['f', 'f'] ∨
        first = 'f' ∧ more.map Char.toLower = ['a', 'l', 's', 'e'] ∨ first = '0' ∧ more = [] := by
      simpa [words] using named
    all_goals simp_all
  | toggle =>
    have letter : first = 't' := by
      have := congrArg List.head? (List.mem_singleton.mp named)
      simpa using this
    simp_all

/-- A literal names no action by itself. -/
theorem not_isNamedBy_literal {action : LedAction} {word : String} {text : List Char}
    (literal : Json.IsLiteral word.toList text) : ¬action.IsNamedBy word := by
  obtain ⟨body, spelled, _⟩ := literal
  rw [isNamedBy_iff, spelled, List.map_cons]
  cases action <;> simp [words]

/-! ### Arguments -/

/-- Every blank of JSON is blank. -/
theorem isBlank_of_json (char : Char) (blank : Json.Token.isBlank char = true) :
    Text.isBlank char = true := by
  simp only [Json.Token.isBlank, Bool.or_eq_true, beq_iff_eq] at blank
  rcases blank with ((rfl | rfl) | rfl) | rfl <;> decide

/-- A stripped text has no blanks of JSON around it. -/
theorem isBare_of_isStripped {whole stripped : List Char} (strip : Text.IsStripped whole stripped) :
    Json.Token.IsBare stripped := by
  have visible (char : Char) (shown : Text.isBlank char = false) :
      Json.Token.isBlank char = false :=
    Bool.eq_false_iff.mpr fun blank => by simp [isBlank_of_json char blank] at shown
  obtain ⟨_, _, _, _, _, head, last⟩ := strip
  exact ⟨fun char first => visible char (head char first),
    fun char final => visible char (last char final)⟩

/-- A digit is read as the action that it names. -/
theorem ofInteger?_eq_some_iff {text : String} {value : Int} {action : LedAction}
    (bare : Json.Token.IsBare text.toList) (found : Json.ofText? text = some (.integer value)) :
    ofInteger? value = some action ↔ action.IsNamedBy text := by
  have one : Json.ofText? text = some (.integer 1) ↔ text.toList = ['1'] :=
    Json.ofText?_eq_digit_iff bare (by decide)
  have zero : Json.ofText? text = some (.integer 0) ↔ text.toList = ['0'] :=
    Json.ofText?_eq_digit_iff bare (by decide)
  constructor
  · intro read
    unfold ofInteger? at read
    rw [isNamedBy_iff]
    split at read
    · cases read
      rw [one.mp found]
      decide
    · cases read
      rw [zero.mp found]
      decide
    · contradiction
  · intro named
    obtain ⟨first, more, spelled, start⟩ := Json.head_of_number bare found trivial
    rcases isNamedBy_of_digit spelled start named with ⟨digit, rfl⟩ | ⟨digit, rfl⟩
    · cases found.symm.trans (one.mpr digit)
      rfl
    · cases found.symm.trans (zero.mpr digit)
      rfl

/-- Any other number names no action. -/
theorem not_isNamedBy_double {text : String} {value : Double} {action : LedAction}
    (bare : Json.Token.IsBare text.toList) (found : Json.ofText? text = some (.double value)) :
    ¬action.IsNamedBy text := by
  intro named
  obtain ⟨first, more, spelled, start⟩ := Json.head_of_number bare found trivial
  have integer : ∃ digit, digit < 10 ∧ text.toList = [Char.ofNat ('0'.toNat + digit)] := by
    rcases isNamedBy_of_digit spelled start named with ⟨digit, _⟩ | ⟨digit, _⟩
    · exact ⟨1, by decide, digit⟩
    · exact ⟨0, by decide, digit⟩
  obtain ⟨digit, small, same⟩ := integer
  cases found.symm.trans ((Json.ofText?_eq_digit_iff bare small).mpr same)

/-- A truth value is the action that its word names. -/
theorem isNamedBy_bool_iff {text : String} {value : Bool} {action : LedAction}
    (bare : Json.Token.IsBare text.toList) (found : Json.ofText? text = some (.bool value)) :
    action.IsNamedBy text ↔ (if value then on else off) = action := by
  rw [(Json.ofText?_eq_bool_iff bare).mp found, isNamedBy_iff]
  cases value <;> cases action <;> decide

/-- A text that is no JSON string denotes what it names. -/
theorem isWritten_of_no_string {text : String} {action : LedAction}
    (bare : Json.Token.IsBare text.toList)
    (other : ∀ word, Json.ofText? text ≠ some (.string word)) :
    action.IsWritten text ↔ action.IsNamedBy text :=
  or_iff_left fun ⟨word, literal, _⟩ => other word ((Json.ofText?_eq_string_iff bare).mpr literal)

/-- A text that is a JSON string denotes what that string names. -/
theorem isWritten_of_string {text word : String} {action : LedAction}
    (bare : Json.Token.IsBare text.toList) (found : Json.ofText? text = some (.string word)) :
    action.IsWritten text ↔ action.IsNamedBy word := by
  have mute := @not_isNamedBy_literal action _ _ ((Json.ofText?_eq_string_iff bare).mp found)
  simp only [IsWritten, mute, false_or, ← Json.ofText?_eq_string_iff bare, found,
    Option.some.injEq, Json.string.injEq, exists_eq_left']

/-- An argument is read as an action exactly if the text between its blanks denotes that action. -/
theorem ofArgument?_eq_some_iff {argument text : String} {action : LedAction}
    (strip : Text.IsStripped argument.toList text.toList) :
    ofArgument? argument = some action ↔ action.IsWritten text := by
  have bare := isBare_of_isStripped strip
  simp only [ofArgument?, Text.strip_eq_iff.mpr strip, String.ofList_toList]
  split
  case h_1 word found => rw [isWritten_of_string bare found, ofWord?_eq_some_iff]
  case h_2 found =>
    rw [isWritten_of_no_string bare (by simp [found]), isNamedBy_bool_iff bare found]
    simp
  case h_3 found =>
    rw [isWritten_of_no_string bare (by simp [found]), isNamedBy_bool_iff bare found]
    simp
  case h_4 value found =>
    rw [isWritten_of_no_string bare (by simp [found]), ofInteger?_eq_some_iff bare found]
  case h_5 value found =>
    rw [isWritten_of_no_string bare (by simp [found])]
    simp [not_isNamedBy_double bare found]
  case h_6 other _ _ _ _ => rw [isWritten_of_no_string bare other, ofWord?_eq_some_iff]

/-- An argument is read as the action that it denotes; if it denotes none, it is refused. -/
theorem parses_exactly (argument : String) :
    (∀ action, ofArgument? argument = some action ↔ Denotes argument action) ∧
      (ofArgument? argument = none ↔ ∀ action, ¬Denotes argument action) := by
  have reads (action : LedAction) : ofArgument? argument = some action ↔
      Denotes argument action := by
    constructor
    · intro read
      have strip : Text.IsStripped argument.toList
          (String.ofList (Text.strip argument.toList)).toList := by
        rw [String.toList_ofList, ← Text.strip_eq_iff]
      exact ⟨_, strip, (ofArgument?_eq_some_iff strip).mp read⟩
    · rintro ⟨text, strip, written⟩
      exact (ofArgument?_eq_some_iff strip).mpr written
  refine ⟨reads, ?_⟩
  simp only [Option.eq_none_iff_forall_ne_some, ne_eq, reads]

end LedAction

end Overseer
