import Mathlib.Data.List.Chain
import Overseer.Proofs.Numerals
import Overseer.Proofs.Spelling

/-!
# The grammar of JSON texts

A text is read in two steps: it is cut into tokens, and the tokens are put together to a tree. Both
are described here without a reader. A token has its written forms (`Token.Written`), a text is laid
out from tokens with blanks around them (`Token.Laid`), and a tree has one sequence of tokens
(`Tree.tokens`). The reader accepts exactly the texts that are laid out from the tokens of a tree,
and gives that tree (`Tree.ofText?_eq_some_iff_laid`).
-/
namespace Overseer.Json

/-! ### Tokens -/

namespace Token

/-- How a token is written. -/
inductive Written : List Char → Token → Prop
  | openArray : Written ['['] .openArray
  | closeArray : Written [']'] .closeArray
  | openObject : Written ['\x7b'] .openObject
  | closeObject : Written ['\x7d'] .closeObject
  | comma : Written [','] .comma
  | colon : Written [':'] .colon
  | null : Written ['n', 'u', 'l', 'l'] .null
  | bool (value : Bool) : Written (toString value).toList (.bool value)
  | number {text : List Char} {numeral : Numeral} (written : Numeral.Written text numeral) :
      Written text (.number numeral)
  | string {body : List Char} {pieces : List Piece} (written : Piece.Written body pieces) :
      Written ('"' :: (body ++ ['"'])) (.string pieces)

/-- A text is laid out from tokens: they follow one another as they are written, with blanks
anywhere between, before and after them. -/
inductive Laid : List Char → List Token → Prop
  | nil : Laid [] []
  | blank {char : Char} {text : List Char} {tokens : List Token} (blank : isBlank char = true)
      (rest : Laid text tokens) : Laid (char :: text) tokens
  | token {word text : List Char} {token : Token} {tokens : List Token}
      (written : Written word token) (rest : Laid text tokens) :
      Laid (word ++ text) (token :: tokens)

/-- A token by itself is laid out as it is written. -/
theorem Written.laid {word : List Char} {token : Token} (written : Written word token) :
    Laid word [token] := by
  have laid := Laid.token written .nil
  rwa [List.append_nil] at laid

/-- Layouts may follow one another. -/
theorem Laid.append {text more : List Char} {tokens further : List Token}
    (laid : Laid text tokens) (later : Laid more further) :
    Laid (text ++ more) (tokens ++ further) := by
  induction laid with
  | nil => exact later
  | blank blank _ ih => exact .blank blank ih
  | token written _ ih =>
    rw [List.append_assoc]
    exact .token written ih

/-- Layouts with commas between them are laid out from the tokens with commas between them. -/
theorem laid_intercalate {texts : List (List Char)} {parts : List (List Token)}
    (laid : List.Forall₂ Laid texts parts) :
    Laid ([','].intercalate texts) ([.comma].intercalate parts) := by
  induction laid with
  | nil => exact .nil
  | cons first rest ih =>
    cases rest with
    | nil =>
      rw [List.intercalate_singleton, List.intercalate_singleton]
      exact first
    | cons =>
      rw [List.intercalate_cons_cons, List.intercalate_cons_cons]
      exact (first.append Written.comma.laid).append ih

/-- A token that is read is written. -/
theorem written_of_read {text rest : List Char} {token : Token}
    (found : read text = some (token, rest)) :
    ∃ word, text = word ++ rest ∧ Written word token := by
  unfold read at found
  split at found
  case h_10 =>
    obtain ⟨⟨pieces, tail⟩, inner, same⟩ := Option.map_eq_some_iff.mp found
    obtain ⟨rfl, rfl⟩ := Prod.mk.inj same
    obtain ⟨body, rfl, written⟩ := Piece.written_of_read inner
    exact ⟨_, by simp, .string written⟩
  case h_11 =>
    obtain ⟨⟨numeral, tail⟩, inner, same⟩ := Option.map_eq_some_iff.mp found
    obtain ⟨rfl, rfl⟩ := Prod.mk.inj same
    obtain ⟨word, rfl, written⟩ := Numeral.written_of_read inner
    exact ⟨word, rfl, .number written⟩
  all_goals obtain ⟨rfl, rfl⟩ := Prod.mk.inj (Option.some.inj found)
  · exact ⟨_, rfl, .openArray⟩
  · exact ⟨_, rfl, .closeArray⟩
  · exact ⟨_, rfl, .openObject⟩
  · exact ⟨_, rfl, .closeObject⟩
  · exact ⟨_, rfl, .comma⟩
  · exact ⟨_, rfl, .colon⟩
  · exact ⟨_, rfl, .null⟩
  · exact ⟨_, rfl, .bool true⟩
  · exact ⟨_, rfl, .bool false⟩

/-- A text that is cut into tokens is laid out from them. -/
theorem laid_of_scan {text : List Char} {tokens : List Token} (scanned : scan text = some tokens) :
    Laid text tokens := by
  fun_induction scan text generalizing tokens with
  | case1 =>
    obtain rfl : [] = tokens := Option.some.inj scanned
    exact .nil
  | case2 char rest blank ih => exact .blank blank (ih scanned)
  | case3 => contradiction
  | case4 char rest visible token tail found ih =>
    obtain ⟨later, further, rfl⟩ := Option.map_eq_some_iff.mp scanned
    obtain ⟨word, split, written⟩ := written_of_read found
    rw [split]
    exact .token written (ih further)

/-- Whether a token is a number. -/
def isNumber : Token → Bool
  | .number _ => true
  | _ => false

/-- A number begins with a character that no other token begins with. -/
theorem read_number {first : Char} {more : List Char}
    (begins : first = '-' ∨ first.isDigit = true) :
    read (first :: more) =
      (Numeral.read (first :: more)).map fun (numeral, rest) => (.number numeral, rest) := by
  rw [read]
  all_goals
    rintro tail ⟨⟩
    exact absurd begins (by decide)

/-- A token is read as it is written, if what follows does not continue it. -/
theorem read_of_written {word rest : List Char} {token : Token} (written : Written word token)
    (ends : token.isNumber = true → Numeral.Ends rest) :
    read (word ++ rest) = some (token, rest) := by
  cases written with
  | number written =>
    have found := Numeral.read_of_written written (ends rfl)
    obtain ⟨first, more, rfl, begins⟩ := written.head
    rw [List.cons_append] at found ⊢
    rw [read_number begins, found]
    rfl
  | string written =>
    have found := Piece.read_of_written rest written
    rw [List.cons_append, List.append_assoc, List.singleton_append, read, found]
    rfl
  | bool value => cases value <;> rfl
  | _ => rfl

/-- A token begins with no blank, and no token but a number with what continues one. -/
theorem Written.head {word : List Char} {token : Token} (written : Written word token) :
    ∃ first more, word = first :: more ∧ isBlank first = false ∧
      (token.isNumber = false → Numeral.Ends word) := by
  cases written with
  | number written =>
    obtain ⟨first, more, rfl, begins⟩ := written.head
    refine ⟨first, more, rfl, ?_, fun other => by contradiction⟩
    rcases begins with rfl | digit
    · rfl
    · refine Bool.eq_false_iff.mpr fun blank => ?_
      simp only [isBlank, Bool.or_eq_true, beq_iff_eq] at blank
      rcases blank with ((rfl | rfl) | rfl) | rfl <;> exact absurd digit (by decide)
  | string => exact ⟨_, _, rfl, rfl, fun _ => by rintro first ⟨⟩; decide⟩
  | bool value =>
    cases value
    · exact ⟨_, _, rfl, rfl, fun _ => by rintro first ⟨⟩; decide⟩
    · exact ⟨_, _, rfl, rfl, fun _ => by rintro first ⟨⟩; decide⟩
  | _ => exact ⟨_, _, rfl, rfl, fun _ => by rintro first ⟨⟩; decide⟩

/-- No two numbers are neighbours. -/
def Apart (tokens : List Token) : Prop :=
  tokens.IsChain fun one other => one.isNumber = true → other.isNumber = false

/-- A layout that does not begin with a number continues none. -/
theorem Laid.ends {text : List Char} {tokens : List Token} (laid : Laid text tokens)
    (other : ∀ token ∈ tokens.head?, token.isNumber = false) : Numeral.Ends text := by
  cases laid with
  | nil => exact fun first head => by contradiction
  | blank blank _ =>
    rintro first ⟨⟩
    simp only [isBlank, Bool.or_eq_true, beq_iff_eq] at blank
    rcases blank with ((rfl | rfl) | rfl) | rfl <;> decide
  | token written _ =>
    obtain ⟨first, more, rfl, -, ends⟩ := written.head
    exact ends (other _ rfl)

/-- A layout of tokens without neighbouring numbers is cut into these tokens. -/
theorem scan_of_laid {text : List Char} {tokens : List Token} (laid : Laid text tokens)
    (apart : Apart tokens) : scan text = some tokens := by
  induction laid with
  | nil => simp [scan]
  | blank blank _ ih => rw [scan, if_pos blank, ih apart]
  | @token word text token tokens written rest ih =>
    obtain ⟨neighbour, later⟩ := List.isChain_cons.mp apart
    -- A numeral is read as far as it goes, so nothing that continues it may follow.
    have ends (number : token.isNumber = true) : Numeral.Ends text :=
      rest.ends fun next first => neighbour next first number
    have found := read_of_written written ends
    obtain ⟨first, more, rfl, visible, -⟩ := written.head
    rw [List.cons_append] at found ⊢
    rw [scan, if_neg (Bool.eq_false_iff.mp visible)]
    split
    · rename_i failed
      rw [found] at failed
      contradiction
    · rename_i same
      obtain ⟨rfl, rfl⟩ := Prod.mk.inj (Option.some.inj (found.symm.trans same))
      rw [ih later]
      rfl

end Token

/-! ### Trees -/

namespace Tree

mutual

/-- The tokens of a tree. -/
def tokens : Tree → List Token
  | .null => [.null]
  | .bool value => [.bool value]
  | .number numeral => [.number numeral]
  | .string pieces => [.string pieces]
  | .array items => .openArray :: ([.comma].intercalate (tokensOfItems items) ++ [.closeArray])
  | .object members =>
    .openObject :: ([.comma].intercalate (tokensOfMembers members) ++ [.closeObject])

/-- The tokens of the items of an array. -/
def tokensOfItems : List Tree → List (List Token)
  | [] => []
  | item :: rest => tokens item :: tokensOfItems rest

/-- The tokens of the members of an object. -/
def tokensOfMembers : List (List Piece × Tree) → List (List Token)
  | [] => []
  | (key, value) :: rest => (.string key :: .colon :: tokens value) :: tokensOfMembers rest

end

/-- A tree has tokens, and does not begin with the end of another one. -/
theorem head_tokens (tree : Tree) :
    ∃ first more, tree.tokens = first :: more ∧ first ≠ .closeArray := by
  cases tree <;> exact ⟨_, _, by rw [tokens], by simp⟩

/-- The tokens of further parts, each behind a comma. -/
def further (parts : List (List Token)) : List Token := parts.flatMap (.comma :: ·)

/-- The first of further parts stands before the others. -/
theorem further_cons (first : List Token) (rest : List (List Token)) :
    further (first :: rest) = .comma :: (first ++ further rest) := List.flatMap_cons

/-- Parts with commas between them are the first one and the further ones. -/
theorem intercalate_cons (first : List Token) (rest : List (List Token)) :
    [.comma].intercalate (first :: rest) = first ++ further rest := by
  induction rest generalizing first with
  | nil => rw [List.intercalate_singleton, further, List.flatMap_nil, List.append_nil]
  | cons second rest ih =>
    rw [List.intercalate_cons_cons, ih, further_cons, List.append_assoc, List.singleton_append]

-- By induction on the tree, in any frames and before any tokens: an array or object that is read
-- goes on with what its last part has left.
mutual

/-- Where a value must stand, the tokens of a tree are read as that tree. -/
theorem read_tokens (tree : Tree) (frames : List Frame) (rest : List Token) :
    (tree.tokens ++ rest).foldlM step (.value frames) =
      rest.foldlM step (.finished tree frames) := by
  cases tree with
  | array items =>
    cases items with
    | nil => rfl
    | cons item items =>
      have first := read_tokens item (.array [] :: frames)
        (further (tokensOfItems items) ++ .closeArray :: rest)
      have later := read_items items [] item frames rest
      obtain ⟨token, more, start, other⟩ := head_tokens item
      -- The first item is not the end of the array.
      have opened : step (.firstItem frames) token = step (.value (.array [] :: frames)) token := by
        cases token <;> first | rfl | exact absurd rfl other
      rw [tokens, tokensOfItems, intercalate_cons]
      simp only [List.cons_append, List.append_assoc, List.nil_append]
      rw [start] at first ⊢
      have whole := first.trans later
      rw [List.cons_append, List.foldlM_cons, ← opened] at whole
      exact whole
  | object members =>
    cases members with
    | nil => rfl
    | cons member members =>
      obtain ⟨key, value⟩ := member
      have first := read_tokens value (.object [] key :: frames)
        (further (tokensOfMembers members) ++ .closeObject :: rest)
      have later := read_members members [] key value frames rest
      rw [tokens, tokensOfMembers, intercalate_cons]
      simp only [List.cons_append, List.append_assoc]
      exact first.trans later
  | _ => rfl

/-- After an item of an array, the tokens of the further items and of its end are read as the whole
array. -/
theorem read_items (items done : List Tree) (last : Tree) (frames : List Frame)
    (rest : List Token) :
    (further (tokensOfItems items) ++ .closeArray :: rest).foldlM step
        (.finished last (.array done :: frames)) =
      rest.foldlM step (.finished (.array ((last :: done).reverse ++ items)) frames) := by
  cases items with
  | nil =>
    rw [List.append_nil]
    rfl
  | cons item items =>
    have first := read_tokens item (.array (last :: done) :: frames)
      (further (tokensOfItems items) ++ .closeArray :: rest)
    have later := read_items items (last :: done) item frames rest
    rw [List.reverse_cons, List.append_assoc, List.singleton_append] at later
    rw [tokensOfItems, further_cons, List.cons_append, List.append_assoc]
    exact first.trans later

/-- After a member of an object, the tokens of the further members and of its end are read as the
whole object. -/
theorem read_members (members done : List (List Piece × Tree)) (key : List Piece) (value : Tree)
    (frames : List Frame) (rest : List Token) :
    (further (tokensOfMembers members) ++ .closeObject :: rest).foldlM step
        (.finished value (.object done key :: frames)) =
      rest.foldlM step
        (.finished (.object (((key, value) :: done).reverse ++ members)) frames) := by
  cases members with
  | nil =>
    rw [List.append_nil]
    rfl
  | cons member members =>
    obtain ⟨other, held⟩ := member
    have first := read_tokens held (.object ((key, value) :: done) other :: frames)
      (further (tokensOfMembers members) ++ .closeObject :: rest)
    have later := read_members members ((key, value) :: done) other held frames rest
    rw [List.reverse_cons, List.append_assoc, List.singleton_append] at later
    rw [tokensOfMembers, further_cons, List.cons_append, List.append_assoc]
    exact first.trans later

end

/-! #### Numbers in a tree -/

/-- Tokens that may follow a number, and in which no two numbers are neighbours. -/
structure Follows (tokens : List Token) : Prop where
  head : ∀ token ∈ tokens.head?, token.isNumber = false
  apart : Token.Apart tokens

/-- Tokens that begin with no number may follow one. -/
theorem Follows.cons {token : Token} {tokens : List Token} (other : token.isNumber = false)
    (apart : Token.Apart tokens) : Follows (token :: tokens) where
  head := by
    rintro first ⟨⟩
    exact other
  apart := List.isChain_cons.mpr ⟨fun _ _ number => by simp [other] at number, apart⟩

mutual

/-- No two numbers are neighbours in the tokens of a tree. -/
theorem apart_tokens (tree : Tree) {rest : List Token} (follows : Follows rest) :
    Token.Apart (tree.tokens ++ rest) := by
  cases tree with
  | array items =>
    cases items with
    | nil => exact (Follows.cons rfl (Follows.cons rfl follows.apart).apart).apart
    | cons item items =>
      have inner := apart_tokens item (follows_items items follows)
      rw [tokens, tokensOfItems, intercalate_cons]
      simp only [List.cons_append, List.append_assoc]
      exact (Follows.cons rfl inner).apart
  | object members =>
    cases members with
    | nil => exact (Follows.cons rfl (Follows.cons rfl follows.apart).apart).apart
    | cons member members =>
      obtain ⟨key, value⟩ := member
      have inner := apart_tokens value (follows_members members follows)
      rw [tokens, tokensOfMembers, intercalate_cons]
      simp only [List.cons_append, List.append_assoc]
      exact (Follows.cons rfl (Follows.cons rfl (Follows.cons rfl inner).apart).apart).apart
  | _ => exact List.isChain_cons.mpr ⟨fun next first _ => follows.head next first, follows.apart⟩

/-- Further items of an array and its end may follow a number. -/
theorem follows_items (items : List Tree) {rest : List Token} (follows : Follows rest) :
    Follows (further (tokensOfItems items) ++ .closeArray :: rest) := by
  cases items with
  | nil => exact .cons rfl follows.apart
  | cons item items =>
    rw [tokensOfItems, further_cons, List.cons_append, List.append_assoc]
    exact .cons rfl (apart_tokens item (follows_items items follows))

/-- Further members of an object and its end may follow a number. -/
theorem follows_members (members : List (List Piece × Tree)) {rest : List Token}
    (follows : Follows rest) :
    Follows (further (tokensOfMembers members) ++ .closeObject :: rest) := by
  cases members with
  | nil => exact .cons rfl follows.apart
  | cons member members =>
    obtain ⟨key, value⟩ := member
    have inner := apart_tokens value (follows_members members follows)
    rw [tokensOfMembers, further_cons, List.cons_append, List.append_assoc]
    exact .cons rfl (Follows.cons rfl (Follows.cons rfl inner).apart).apart

end

/-! #### What was read so far -/

/-- The tokens of earlier parts, each before a comma. -/
def earlier (parts : List (List Token)) : List Token := parts.flatMap (· ++ [.comma])

/-- The last of earlier parts stands behind the others. -/
theorem earlier_append_singleton (parts : List (List Token)) (last : List Token) :
    earlier (parts ++ [last]) = earlier parts ++ (last ++ [.comma]) := by
  simp [earlier]

/-- Parts with commas between them are the earlier ones and the last one. -/
theorem intercalate_append_singleton (parts : List (List Token)) (last : List Token) :
    [.comma].intercalate (parts ++ [last]) = earlier parts ++ last := by
  induction parts with
  | nil => exact List.intercalate_singleton
  | cons first rest ih =>
    have more : rest ++ [last] ≠ [] := by simp
    rw [List.cons_append, List.intercalate_cons_of_ne_nil more, ih]
    simp [earlier]

/-- The tokens of items are those of each. -/
theorem tokensOfItems_append_singleton (items : List Tree) (last : Tree) :
    tokensOfItems (items ++ [last]) = tokensOfItems items ++ [last.tokens] := by
  induction items with
  | nil => rfl
  | cons item rest ih => rw [List.cons_append, tokensOfItems, ih, tokensOfItems, List.cons_append]

/-- The tokens of members are those of each. -/
theorem tokensOfMembers_append_singleton (members : List (List Piece × Tree)) (key : List Piece)
    (value : Tree) :
    tokensOfMembers (members ++ [(key, value)]) =
      tokensOfMembers members ++ [.string key :: .colon :: value.tokens] := by
  induction members with
  | nil => rfl
  | cons member rest ih =>
    rw [List.cons_append, tokensOfMembers, ih, tokensOfMembers, List.cons_append]

/-- The tokens that were read of an object before the end of a member. -/
def openMembers (members : List (List Piece × Tree)) : List Token :=
  .openObject :: earlier (tokensOfMembers members.reverse)

/-- The tokens that were read of an array or object whose end has not been read. -/
def Frame.consumed : Frame → List Token
  | .array items => .openArray :: earlier (tokensOfItems items.reverse)
  | .object members key => openMembers members ++ [.string key, .colon]

/-- The tokens that were read of all arrays and objects whose ends have not been read. -/
def before : List Frame → List Token
  | [] => []
  | frame :: frames => before frames ++ frame.consumed

/-- The tokens that were read so far. -/
def State.consumed : State → List Token
  | .value frames => before frames
  | .firstItem frames => before frames ++ [.openArray]
  | .firstKey frames => before frames ++ [.openObject]
  | .key frames members => before frames ++ openMembers members
  | .colon frames members name => before frames ++ openMembers members ++ [.string name]
  | .finished tree frames => before frames ++ tree.tokens

/-- Where a value must stand, a token is added to what was read. -/
theorem consumed_of_stepValue {frames : List Frame} {token : Token} {state : State}
    (stepped : stepValue frames token = some state) :
    state.consumed = before frames ++ [token] := by
  unfold stepValue at stepped
  split at stepped <;> first | contradiction | skip
  all_goals
    cases stepped
    rfl

/-- Every token is added to what was read. -/
theorem consumed_of_step {state next : State} {token : Token}
    (stepped : step state token = some next) : next.consumed = state.consumed ++ [token] := by
  unfold step at stepped
  split at stepped
  case h_1 => exact consumed_of_stepValue stepped
  case h_3 =>
    rw [consumed_of_stepValue stepped]
    rfl
  all_goals first | contradiction | skip
  all_goals
    cases stepped
    simp [State.consumed, before, Frame.consumed, openMembers, tokens,
      tokensOfItems_append_singleton, tokensOfMembers_append_singleton, earlier_append_singleton,
      intercalate_append_singleton]
  -- What remains are arrays and objects of which nothing has been read.
  all_goals rfl

/-- A run of the reader adds its tokens to what was read. -/
theorem consumed_of_run {list : List Token} {state last : State}
    (run : list.foldlM step state = some last) : last.consumed = state.consumed ++ list := by
  induction list generalizing state with
  | nil =>
    obtain rfl : state = last := Option.some.inj run
    rw [List.append_nil]
  | cons token rest ih =>
    rw [List.foldlM_cons, Option.bind_eq_bind, Option.bind_eq_some_iff] at run
    obtain ⟨next, stepped, later⟩ := run
    rw [ih later, consumed_of_step stepped, List.append_assoc, List.singleton_append]

/-- Tokens are put together to a tree exactly if they are its tokens. -/
theorem ofTokens?_eq_some_iff_tokens {list : List Token} {tree : Tree} :
    ofTokens? list = some tree ↔ list = tree.tokens := by
  constructor
  · intro found
    unfold ofTokens? at found
    split at found
    · rename_i last run
      obtain rfl := Option.some.inj found
      have whole := consumed_of_run run
      exact whole.symm
    · contradiction
  · rintro rfl
    have run := read_tokens tree [] []
    rw [List.append_nil] at run
    rw [ofTokens?, run]
    rfl

/-- A text is read as a tree exactly if it is laid out from the tokens of that tree. -/
theorem ofText?_eq_some_iff_laid {text : String} {tree : Tree} :
    ofText? text = some tree ↔ Token.Laid text.toList tree.tokens := by
  rw [ofText?, Option.bind_eq_bind, Option.bind_eq_some_iff]
  constructor
  · rintro ⟨list, scanned, found⟩
    rw [← ofTokens?_eq_some_iff_tokens.mp found]
    exact Token.laid_of_scan scanned
  · intro laid
    have apart : Token.Apart tree.tokens := by
      have whole : Token.Apart (tree.tokens ++ []) :=
        apart_tokens tree ⟨fun token head => by contradiction, .nil⟩
      rwa [List.append_nil] at whole
    exact ⟨_, Token.scan_of_laid laid apart, ofTokens?_eq_some_iff_tokens.mpr rfl⟩

end Tree

end Overseer.Json
