import TypedDefaults.Text.Printable

/-!
# Quoted text

The form in which trace keys and messages show a string: between quotes, with
the quote, the backslash and everything unprintable escaped. Single quotes are
used unless the text holds a single quote and no double quote. Line feed,
carriage return and tab have short escapes; other unprintable characters are
written in hexadecimal with two, four or eight digits.
-/

namespace TypedDefaults.Text

/-- A hexadecimal digit in lower case. -/
def hexDigit (value : Nat) : Char :=
  if value < 10 then Char.ofNat (0x30 + value) else Char.ofNat (0x57 + value)

/-- The lowest `width` hexadecimal digits of a number, most significant first. -/
def hexDigits : Nat → Nat → List Char
  | 0, _ => []
  | width + 1, value => hexDigits width (value / 16) ++ [hexDigit (value % 16)]

/-- The quote that surrounds a text. -/
def quoteFor (text : List Char) : Char :=
  if text.contains '\'' && !text.contains '"' then '"' else '\''

/-- A character inside quoted text. -/
def escaped (quote character : Char) : List Char :=
  let code := character.toNat
  if character = quote || character = '\\' then ['\\', character]
  else if character = '\n' then ['\\', 'n']
  else if character = '\r' then ['\\', 'r']
  else if character = '\t' then ['\\', 't']
  else if isPrintable character then [character]
  else if code < 0x100 then '\\' :: 'x' :: hexDigits 2 code
  else if code < 0x10000 then '\\' :: 'u' :: hexDigits 4 code
  else '\\' :: 'U' :: hexDigits 8 code

/-- The text between quotes, escaped. -/
def quoted (text : String) : String :=
  let characters := text.toList
  let quote := quoteFor characters
  String.ofList (quote :: characters.flatMap (escaped quote) ++ [quote])

end TypedDefaults.Text
