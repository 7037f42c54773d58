import TypedDefaults.Decimal.Binary64
import TypedDefaults.Text.Blank
import TypedDefaults.Text.Digit
import TypedDefaults.Text.LowerCase

/-!
# Numerals in text

Integers and decimals as people write them in settings: an optional sign,
digits of any script, single underscores between digits, and for decimals a
point, an exponent, or one of the words for infinity and "not a number".
Reading is total: a text that is no numeral gives nothing.
-/

namespace TypedDefaults

namespace Numeral

/-- The sign in front of a numeral and what follows it. -/
def splitSign : List Char → Bool × List Char
  | '-' :: rest => (true, rest)
  | '+' :: rest => (false, rest)
  | rest => (false, rest)

/-- The leading ASCII digits as values, and the rest. -/
def leadingDigits (text : List Char) : List Nat × List Char :=
  ((text.takeWhile Char.isDigit).map fun digit => digit.toNat - 0x30, text.dropWhile Char.isDigit)

/-- Removes underscores. Each must stand between two digits; `afterDigit` says whether the last
character was one. -/
def withoutUnderscores? (afterDigit : Bool) : List Char → Option (List Char)
  | [] => some []
  | '_' :: rest =>
    match rest with
    | next :: _ => if afterDigit && next.isDigit then withoutUnderscores? false rest else none
    | [] => none
  | character :: rest => (withoutUnderscores? character.isDigit rest).map (character :: ·)

/-- A numeral without white space at its ends, foreign digits and underscores. -/
def cleaned? (text : String) : Option (List Char) :=
  withoutUnderscores? false ((Text.trimWhile Text.isSpacing text.toList).map Text.asciiDigit)

/-- The greatest number of digits an integer numeral may have. -/
def digitLimit : Nat := 4300

/-- The sign and digits of an integer numeral. -/
def integerDigits? (text : List Char) : Option (Bool × List Nat) :=
  let (negative, unsigned) := splitSign text
  match leadingDigits unsigned with
  | ([], _) => none
  | (digits, []) => some (negative, digits)
  | (_, _ :: _) => none

/-- The integer with a sign and digits. -/
def signed (negative : Bool) (digits : List Nat) : Int :=
  if negative then -Int.ofNat (Binary64.digitsValue digits)
  else Int.ofNat (Binary64.digitsValue digits)

/-- Reads an integer of at most `digitLimit` digits. -/
def integer? (text : String) : Option Int := do
  let (negative, digits) ← integerDigits? (← cleaned? text)
  if digits.length ≤ digitLimit then some (signed negative digits) else none

/-- The digits at the beginning of a text: a zero alone, or all of them if the first is no zero. -/
def plainDigits : List Char → List Char
  | '0' :: _ => ['0']
  | text => text.takeWhile Char.isDigit

/-- The whole number at the beginning of a text in plain notation: its digits, behind a minus if it
is negative. -/
def leadingWhole : List Char → List Char
  | '-' :: rest => '-' :: plainDigits rest
  | text => plainDigits text

/-- Reads a text that is a whole number in plain notation, of at most `limit` characters. -/
def plainInteger? (limit : Nat) (text : List Char) : Option Int :=
  if leadingWhole text = text ∧ text.length ≤ limit then
    (integerDigits? text).map fun (negative, digits) => signed negative digits
  else none

/-- The exponent part of a decimal: nothing, or the letter e with an integer. -/
def exponent? : List Char → Option Int
  | [] => some 0
  | mark :: rest =>
    if mark = 'e' || mark = 'E' then
      (integerDigits? rest).map fun (negative, digits) => signed negative digits
    else none

/-- Reads digits with an optional point and exponent. There must be a digit beside the point. -/
def unsignedDecimal? (text : List Char) : Option (List Nat × Int) := do
  let (whole, rest) := leadingDigits text
  let (fraction, rest) := match rest with
    | '.' :: rest => leadingDigits rest
    | rest => ([], rest)
  if whole.isEmpty && fraction.isEmpty then none
  else
    let exponent ← exponent? rest
    some (whole ++ fraction, exponent - Int.ofNat fraction.length)

/-- Reads a decimal, an infinity or "not a number" from a cleaned numeral. -/
def binary64Of? (text : List Char) : Option Binary64 :=
  let (negative, unsigned) := splitSign text
  let word := String.ofList (unsigned.map Char.toLower)
  if word = "inf" || word = "infinity" then some (.infinite negative)
  else if word = "nan" then some .notANumber
  else (unsignedDecimal? unsigned).map fun (digits, exponent) =>
    Binary64.ofDecimal negative digits exponent

/-- Reads a decimal numeral. -/
def binary64? (text : String) : Option Binary64 := cleaned? text >>= binary64Of?

end Numeral

/-- A whole number with too many digits to be read. -/
structure OversizedNumeral where
  digits : Nat
  deriving DecidableEq, Repr, Inhabited

/-- The text of the complaint about too many digits. -/
def OversizedNumeral.message (numeral : OversizedNumeral) : String :=
  let limit := toString Numeral.digitLimit
  "Exceeds the limit (" ++ limit ++ " digits) for integer string conversion: value has " ++
    toString numeral.digits ++
    " digits; use sys.set_int_max_str_digits() to increase the limit"

end TypedDefaults
