import TypedDefaults.Decimal.Binary64
import TypedDefaults.Validation.Checked

/-!
# Truth values

Switches are written as truth values, as zero or one, or as one of a dozen
words in any case. A number or word beyond these cannot be read; a number that
is not whole, or does not fit 64 bits, is no truth value at all. Documents are
narrower: there a whole number has at most eighteen digits.
-/

namespace TypedDefaults.Truth

/-- The words for true. -/
def trueWords : List String := ["1", "true", "t", "yes", "y", "on"]

/-- The words for false. -/
def falseWords : List String := ["0", "false", "f", "no", "n", "off"]

/-- Reads a word of either kind. -/
def ofWord (word : String) : Checked Bool :=
  let plain := String.ofList (word.toList.map Char.toLower)
  if trueWords.contains plain then .valid true
  else if falseWords.contains plain then .valid false
  else .problem .unreadableBoolean

/-- Reads zero or one. -/
def ofUnit (value : Int) : Checked Bool :=
  if value = 0 then .valid false
  else if value = 1 then .valid true
  else .problem .unreadableBoolean

/-- The bound of whole numbers of 64 bits, two to the power of 63. -/
def wordBound : Int := 9223372036854775808

/-- Reads a whole number of 64 bits. -/
def ofInteger (value : Int) : Checked Bool :=
  if -wordBound ≤ value ∧ value < wordBound then ofUnit value else .problem .notABoolean

/-- The bound of whole numbers in documents, the least one of nineteen digits. -/
def documentBound : Nat := 1000000000000000000

/-- Reads a whole number in a document, where one of nineteen digits is no truth value any more. -/
def ofDocumentInteger (value : Int) : Checked Bool :=
  if value.natAbs < documentBound then ofUnit value else .problem .notABoolean

/-- Reads a number that may have a fraction. The bounds themselves do not count as 64 bits. -/
def ofDecimal (value : Binary64) : Checked Bool :=
  match value.toInt? with
  | some whole =>
    if -wordBound < whole ∧ whole < wordBound then ofUnit whole else .problem .notABoolean
  | none => .problem .notABoolean

end TypedDefaults.Truth
