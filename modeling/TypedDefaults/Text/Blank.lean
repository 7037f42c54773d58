import TypedDefaults.Text.CodeRanges

/-!
# White space and trimming

Two classes of white space are in use. `isBlank` is the wider one: the
`White_Space` property together with the four information separators
U+001C to U+001F. Names given in settings are trimmed with it. `isSpacing` is
the property alone; numbers written as text are trimmed with that one.
-/

namespace TypedDefaults.Text

/-- White space and the information separators. -/
def blankRanges : CodeRanges :=
  [(0x9, 0xD), (0x1C, 0x20), (0x85, 0x85), (0xA0, 0xA0), (0x1680, 0x1680), (0x2000, 0x200A),
   (0x2028, 0x2029), (0x202F, 0x202F), (0x205F, 0x205F), (0x3000, 0x3000)]

/-- A character that trimming a name removes. -/
def isBlank (character : Char) : Bool := blankRanges.contains character.toNat

/-- A character with the `White_Space` property: blank, and no information separator. -/
def isSpacing (character : Char) : Bool :=
  isBlank character && !(0x1C ≤ character.toNat && character.toNat ≤ 0x1F)

/-- Drops the characters of a class from both ends. -/
def trimWhile (drops : Char → Bool) (text : List Char) : List Char :=
  ((text.dropWhile drops).reverse.dropWhile drops).reverse

/-- The text without blanks at either end. -/
def trim (text : String) : String := String.ofList (trimWhile isBlank text.toList)

/-- Every character that core calls white space is blank. -/
theorem isBlank_of_isWhitespace (character : Char) (white : character.isWhitespace = true) :
    isBlank character = true := by
  simp only [Char.isWhitespace, Bool.or_eq_true, decide_eq_true_eq] at white
  rcases white with ((rfl | rfl) | rfl) | rfl <;> decide

end TypedDefaults.Text
