import TypedDefaults.Decimal.Numeral
import TypedDefaults.Text.Parts

/-!
# Whole numbers written freely

A whole number in a setting may be written with white space around it, a plus,
zeros in front, single underscores and a fraction of zeros. `Numeral.bare?` takes
these away, one after the other; what is left is read as plain notation. A step
that finds nothing to take away leaves the text as it is, so the plain notation
of a number is its own bare form.
-/

namespace TypedDefaults

namespace Numeral

/-- The text without a plus in front, behind which there must be no minus. -/
def withoutPlus? : List Char → Option (List Char)
  | '+' :: '-' :: _ => none
  | '+' :: rest => some rest
  | text => some text

/-- Drops zeros, and underscores among them, up to what makes the number: a digit, a minus, or a
point, which keeps the character in front of it. So does the end of the text. `last` is the
character in front. -/
def behindZeros? (last : Char) : List Char → Option (List Char)
  | [] => some [last]
  | next :: rest =>
    if next = '0' || next = '_' then behindZeros? next rest
    else if next.isDigit || next = '-' then some (next :: rest)
    else if next = '.' then some (last :: next :: rest)
    else none

/-- The text without zeros in front. It must start with a digit or a minus. -/
def withoutZeros? : List Char → Option (List Char)
  | [] => none
  | first :: rest =>
    if first = '0' then behindZeros? first rest
    else if first.isDigit || first = '-' then some (first :: rest)
    else none

/-- The text without a point and the zeros behind it, if that is how it ends. At least one zero
stands behind the point. -/
def withoutZeroFraction (text : List Char) : List Char :=
  match Text.cutFirst? '.' text with
  | some (whole, fraction) =>
    if !fraction.isEmpty && fraction.all (· = '0') then whole else text
  | none => text

/-- The text without single underscores between other characters. Where an underscore stands at an
end or beside another one, all of them stay. -/
def withoutInnerUnderscores (text : List Char) : List Char :=
  let pieces := Text.parts ['_'] text
  if pieces.any List.isEmpty then text else pieces.flatten

/-- The bare form of a whole number that is written freely. -/
def bare? (text : List Char) : Option (List Char) := do
  let unsigned ← withoutPlus? (Text.trimWhile Text.isSpacing text)
  let digits ← withoutZeros? unsigned
  some (withoutInnerUnderscores (withoutZeroFraction digits))

/-- Reads a whole number that is written freely. -/
def lenientInteger? (text : List Char) : Option Int := bare? text >>= plainInteger? digitLimit

/-- The text starts with more digits than can be read, whatever comes behind them. -/
def startsOversized (text : List Char) : Bool := digitLimit < (leadingWhole text).length

end Numeral

end TypedDefaults
