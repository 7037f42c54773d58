import TypedDefaults.Decimal.Numeral
import TypedDefaults.Kind
import TypedDefaults.Literal.Split
import TypedDefaults.Text.LowerCase

/-!
# Converting literals in place

A literal default value becomes a literal of the member's primitive type. Only
the word "true" in any case is true. A character is the first one of the text,
an escape sequence counting as one. Numbers must be well formed and whole
numbers within the range of their type; they are written without sign plus and
without leading zeros, so that none reads as octal, and those that are not whole
keep the form of a floating literal. Digits of any script count. As the end of a
text counts also the place in front of one final line feed.
-/

namespace TypedDefaults.Literal

open Java

/-- A text without one line feed at its end. -/
def withoutFinalLineFeed (text : List Char) : List Char :=
  if text.getLast? = some '\n' then text.dropLast else text

/-- The leading digits of any script, and the rest. -/
def leadingDigits (text : List Char) : List Char × List Char :=
  (text.takeWhile Text.isDigit, text.dropWhile Text.isDigit)

/-- The values of digits of any script. -/
def digitValues (digits : List Char) : List Nat := digits.filterMap Text.digitValue?

/-- The sign and digits of a whole number. -/
def wholeNumber? (text : List Char) : Option (Bool × List Nat) :=
  let (negative, unsigned) := Numeral.splitSign (withoutFinalLineFeed text)
  match leadingDigits unsigned with
  | ([], _) => none
  | (digits, []) => some (negative, digitValues digits)
  | (_, _ :: _) => none

/-- The least and greatest value of a whole-number kind. -/
def range? : Kind → Option (Int × Int)
  | .byte => some (-128, 127)
  | .short => some (-32768, 32767)
  | .int => some (-2147483648, 2147483647)
  | .long => some (-9223372036854775808, 9223372036854775807)
  | _ => none

/-- The value lies in the range of ints. -/
def fitsInt (value : Int) : Bool := -2147483648 ≤ value && value ≤ 2147483647

/-- The token of a whole number of a kind with a range. -/
def wholeToken? (kind : Kind) (range : Int × Int) (text : List Char) :
    Except OversizedNumeral (Option String) :=
  match wholeNumber? text with
  | none => .ok none
  | some (negative, digits) =>
    if Numeral.digitLimit < digits.length then .error ⟨digits.length⟩
    else
      let value := Numeral.signed negative digits
      if range.1 ≤ value ∧ value ≤ range.2 then
        .ok (some (toString value ++ if kind = .long && !fitsInt value then "L" else ""))
      else .ok none

/-- An optional exponent in front of the rest. -/
def afterExponent? (text : List Char) : Option (List Char) :=
  match text with
  | [] => some []
  | mark :: rest =>
    if mark = 'e' || mark = 'E' then
      match leadingDigits (Numeral.splitSign rest).2 with
      | ([], _) => none
      | (_, rest) => some rest
    else some text

/-- The letters that may end a decimal number. -/
def isSuffix (character : Char) : Bool :=
  character = 'f' || character = 'F' || character = 'd' || character = 'D'

/-- A decimal number without sign: digits with an optional point, or a point with digits; then an
optional exponent and an optional suffix. -/
def isUnsignedDecimal (text : List Char) : Bool :=
  let (whole, rest) := leadingDigits text
  let (fraction, rest) := match rest with
    | '.' :: rest => leadingDigits rest
    | rest => ([], rest)
  if whole.isEmpty && fraction.isEmpty then false
  else match afterExponent? rest with
    | none => false
    | some [] => true
    | some [suffix] => isSuffix suffix
    | some _ => false

/-- The shape of a decimal number. -/
def isDecimal (text : List Char) : Bool :=
  isUnsignedDecimal (Numeral.splitSign (withoutFinalLineFeed text)).2

/-- Digits without leading zeros, at least one of them; no digits stay none. -/
def withoutLeadingZeros (digits : List Char) : List Char :=
  if digits.isEmpty then []
  else
    let significant := digits.dropWhile (· = '0')
    if significant.isEmpty then ['0'] else significant

/-- The text without suffix letters at its end. -/
def withoutSuffix (text : List Char) : List Char := (text.reverse.dropWhile isSuffix).reverse

/-- The token of a decimal number. Floats get a suffix; doubles without point and exponent get a
point, so that none is a whole number. -/
def decimalToken (kind : Kind) (text : List Char) : String :=
  let text := withoutSuffix (text.dropWhile (· = '+'))
  let (sign, unsigned) := match text with
    | '-' :: rest => (['-'], rest)
    | rest => ([], rest)
  let (digits, rest) := leadingDigits unsigned
  let rest := rest.takeWhile (· ≠ '\n')
  let tail :=
    if kind = .float then ['f']
    else if rest.any (fun mark => mark = '.' || mark = 'e' || mark = 'E') then []
    else ['.', '0']
  String.ofList (sign ++ withoutLeadingZeros digits ++ rest ++ tail)

/-- The first character of a text, an escape sequence counting as one. -/
def firstCharacter? : List Char → Option (List Char)
  | [] => none
  | '\\' :: 'u' :: rest => some ('\\' :: 'u' :: rest.take 4)
  | '\\' :: rest => some ('\\' :: rest.take 1)
  | first :: _ => some [first]

/-- The token of a character. -/
def charToken? (text : List Char) : Option String :=
  (firstCharacter? text).map fun first =>
    let shown := if first = ['\''] then ['\\', '\''] else first
    String.ofList ('\'' :: shown ++ ['\''])

/-- The token of a truth value. -/
def booleanToken (text : String) : String := if Text.lower text = "true" then "true" else "false"

/-- The primitive keyword of a scalar kind. -/
def keyword? : Kind → Option String
  | .boolean => some "boolean"
  | .byte => some "byte"
  | .char => some "char"
  | .short => some "short"
  | .int => some "int"
  | .long => some "long"
  | .float => some "float"
  | .double => some "double"
  | _ => none

/-- The token of a scalar kind for a text, if the text can be converted. -/
def token? (kind : Kind) (text : String) : Except OversizedNumeral (Option String) :=
  match kind, range? kind with
  | .boolean, _ => .ok (some (booleanToken text))
  | .char, _ => .ok (charToken? text.toList)
  | kind, some range => wholeToken? kind range text.toList
  | kind, none => .ok (if isDecimal text.toList then some (decimalToken kind text.toList) else none)

/-- The literal of a scalar kind that a literal token is converted to. Other kinds, and texts that
cannot be converted, give nothing. -/
def convert (kind : Kind) (token : String) : Except OversizedNumeral (Option Expression) :=
  match keyword? kind with
  | none => .ok none
  | some keyword =>
    (token? kind (unquote token)).map fun converted =>
      converted.map fun source => .literal source (some (.primitive keyword))

end TypedDefaults.Literal
