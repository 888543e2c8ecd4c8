import Overseer.Text.Range

/-!
# Blank characters

Text is stripped of the characters with the Unicode property `White_Space` at both ends. The class
is wider than the blanks of ASCII: it holds the no-break space and the ideographic space as well.
-/
namespace Overseer.Text

/-- The ranges of `White_Space`. -/
def blankRanges : CharRanges :=
  [(0x9, 0xd), (0x20, 0x20), (0x85, 0x85), (0xa0, 0xa0), (0x1680, 0x1680), (0x2000, 0x200a),
    (0x2028, 0x2029), (0x202f, 0x202f), (0x205f, 0x205f), (0x3000, 0x3000)]

/-- Whether the character is blank. -/
def isBlank (char : Char) : Bool := blankRanges.contain char

/-- A text without its leading and trailing blanks. -/
def strip (text : List Char) : List Char :=
  ((text.dropWhile isBlank).reverse.dropWhile isBlank).reverse

/-- Every blank of ASCII is blank. -/
theorem isBlank_of_isWhitespace (char : Char) (blank : char.isWhitespace = true) :
    isBlank char = true := by
  simp only [Char.isWhitespace, Bool.or_eq_true, decide_eq_true_eq] at blank
  rcases blank with ((rfl | rfl) | rfl) | rfl <;> decide

/-- A stripped text does not begin with a blank. -/
theorem head?_strip (text : List Char) (char : Char) (first : (strip text).head? = some char) :
    isBlank char = false := by
  have cut : ∀ letters : List Char, letters.dropWhile isBlank <:+ letters :=
    fun letters => List.dropWhile_suffix _
  have kept := List.reverse_prefix.mpr (cut (text.dropWhile isBlank).reverse)
  rw [List.reverse_reverse] at kept
  obtain ⟨rest, whole⟩ := kept
  have head : (text.dropWhile isBlank).head? = some char := by
    rw [← whole]
    cases remaining : strip text with
    | nil => simp [remaining] at first
    | cons letter letters =>
      rw [remaining] at first
      simp only [strip] at remaining
      simpa [remaining] using first
  have := List.head?_dropWhile_not isBlank text
  simpa [head] using this

end Overseer.Text
