import TypedDefaults.Decimal.Numeral

/-!
# JSON tokens

A document is read character by character by a machine whose state says what
the character belongs to: nothing yet, a string, an escape inside a string, or
a bare word. Bare words are numbers and the names `true`, `false`, `null`,
`NaN`, `Infinity` and `-Infinity`; a word that is none of these spoils the
document, and so does a control character inside a string, an unknown escape or
a surrogate escape without its partner.
-/

namespace TypedDefaults.Json

/-- A token of a document. -/
inductive Token where
  | openArray
  | closeArray
  | openObject
  | closeObject
  | comma
  | colon
  | string (value : String)
  | null
  | boolean (value : Bool)
  | integer (value : Int)
  | decimal (value : Binary64)
  deriving DecidableEq, Inhabited

namespace Token

/-- The digits of a number's whole part: a zero alone, or digits that do not start with zero. -/
def wholePart? : List Char → Option (List Char)
  | '0' :: rest => some rest
  | first :: rest => if first.isDigit then some (rest.dropWhile Char.isDigit) else none
  | [] => none

/-- One digit or more, and the rest. -/
def someDigits? : List Char → Option (List Char)
  | first :: rest => if first.isDigit then some (rest.dropWhile Char.isDigit) else none
  | [] => none

/-- A point with digits, if the text goes on with a point. -/
def fractionPart? : List Char → Option (List Char)
  | '.' :: rest => someDigits? rest
  | rest => some rest

/-- The letter e with a signed number, if the text goes on with that letter. -/
def exponentPart? : List Char → Option (List Char)
  | mark :: rest =>
    if mark = 'e' || mark = 'E' then someDigits? (Numeral.splitSign rest).2 else some (mark :: rest)
  | [] => some []

/-- The shape of a number: a minus if negative, a whole part, a fraction and an exponent. -/
def isNumber (word : List Char) : Bool :=
  let unsigned := match word with
    | '-' :: rest => rest
    | rest => rest
  (wholePart? unsigned >>= fractionPart? >>= exponentPart?) = some []

/-- The token that a bare word stands for. The whole part of a number, its minus included, has at
most `limit` characters. -/
def ofWord? (limit : Nat) (word : List Char) : Option Token :=
  if word = "null".toList then some null
  else if word = "true".toList then some (boolean true)
  else if word = "false".toList then some (boolean false)
  else if word = "NaN".toList then some (decimal .notANumber)
  else if word = "Infinity".toList then some (decimal (.infinite false))
  else if word = "-Infinity".toList then some (decimal (.infinite true))
  else
    match Numeral.plainInteger? limit word with
    | some value => some (integer value)
    | none =>
      if isNumber word && (Numeral.leadingWhole word).length ≤ limit then
        (Numeral.binary64Of? word).map decimal
      else none

/-- The token of a punctuation mark. -/
def ofMark? : Char → Option Token
  | '[' => some openArray
  | ']' => some closeArray
  | '{' => some openObject
  | '}' => some closeObject
  | ',' => some comma
  | ':' => some colon
  | _ => none

/-- The white space between tokens. -/
def isSpace (character : Char) : Bool :=
  character = ' ' || character = '\t' || character = '\n' || character = '\r'

/-- The character of a one-letter escape. -/
def escape? : Char → Option Char
  | '"' => some '"'
  | '\\' => some '\\'
  | '/' => some '/'
  | 'b' => some (Char.ofNat 0x8)
  | 'f' => some (Char.ofNat 0xC)
  | 'n' => some '\n'
  | 'r' => some '\r'
  | 't' => some '\t'
  | _ => none

/-- The value of a hexadecimal digit of either case. -/
def hexValue? (character : Char) : Option Nat :=
  let code := character.toNat
  if 0x30 ≤ code ∧ code ≤ 0x39 then some (code - 0x30)
  else if 0x41 ≤ code ∧ code ≤ 0x46 then some (code - 0x37)
  else if 0x61 ≤ code ∧ code ≤ 0x66 then some (code - 0x57)
  else none

/-- The first half of a surrogate pair. -/
def isHighSurrogate (unit : Nat) : Bool := 0xD800 ≤ unit && unit < 0xDC00

/-- The second half of a surrogate pair. -/
def isLowSurrogate (unit : Nat) : Bool := 0xDC00 ≤ unit && unit < 0xE000

/-- The character of a surrogate pair. -/
def pairCharacter (high low : Nat) : Char :=
  Char.ofNat (0x10000 + (high - 0xD800) * 0x400 + (low - 0xDC00))

/-- What the machine is in the middle of. Texts are kept last character first; `high` is the first
half of a surrogate pair that waits for its second half. -/
inductive State where
  | between
  | word (read : List Char)
  | string (read : List Char)
  | escape (read : List Char)
  | unicode (read : List Char) (high : Option Nat) (digits value : Nat)
  | expectBackslash (read : List Char) (high : Nat)
  | expectU (read : List Char) (high : Nat)

/-- What a finished four-digit escape leads to. -/
def afterUnicode (read : List Char) (high : Option Nat) (unit : Nat) : Option State :=
  match high with
  | some first =>
    if isLowSurrogate unit then some (.string (pairCharacter first unit :: read)) else none
  | none =>
    if isHighSurrogate unit then some (.expectBackslash read unit)
    else if isLowSurrogate unit then none
    else some (.string (Char.ofNat unit :: read))

/-- A character between tokens starts a string, is a mark or space, or starts a word. The marks and
words that are complete come first in the answer. -/
def startToken (character : Char) : State × List Token :=
  if isSpace character then (.between, [])
  else if character = '"' then (.string [], [])
  else match ofMark? character with
    | some token => (.between, [token])
    | none => (.word [character], [])

/-- A character that ends a bare word. -/
def endsWord (character : Char) : Bool :=
  isSpace character || character = '"' || (ofMark? character).isSome

/-- One character moves the machine and completes any number of tokens up to two. -/
def step (limit : Nat) : State → Char → Option (State × List Token)
  | .between, character => some (startToken character)
  | .word read, character =>
    if endsWord character then
      (ofWord? limit read.reverse).map fun token =>
        let (state, tokens) := startToken character
        (state, token :: tokens)
    else some (.word (character :: read), [])
  | .string read, character =>
    if character = '"' then some (.between, [string (String.ofList read.reverse)])
    else if character = '\\' then some (.escape read, [])
    else if character.toNat < 0x20 then none
    else some (.string (character :: read), [])
  | .escape read, character =>
    if character = 'u' then some (.unicode read none 0 0, [])
    else (escape? character).map fun meant => (.string (meant :: read), [])
  | .unicode read high digits value, character =>
    match hexValue? character with
    | none => none
    | some digit =>
      let value := value * 16 + digit
      if digits = 3 then (afterUnicode read high value).map fun state => (state, [])
      else some (.unicode read high (digits + 1) value, [])
  | .expectBackslash read high, character =>
    if character = '\\' then some (.expectU read high, []) else none
  | .expectU read high, character =>
    if character = 'u' then some (.unicode read (some high) 0 0, []) else none

/-- The machine together with the tokens completed so far, last first. -/
abbrev Progress := State × List Token

/-- One character moves the machine on. -/
def advance (limit : Nat) (progress : Progress) (character : Char) : Option Progress :=
  (step limit progress.1 character).map fun (state, tokens) => (state, tokens.reverse ++ progress.2)

/-- The end of the text completes a bare word; it must not come inside a string. -/
def finish (limit : Nat) (progress : Progress) : Option (List Token) :=
  match progress.1 with
  | .between => some progress.2.reverse
  | .word read => (ofWord? limit read.reverse).map fun token => (token :: progress.2).reverse
  | _ => none

/-- The tokens of a text. -/
def scan (limit : Nat) (text : List Char) : Option (List Token) :=
  text.foldlM (advance limit) (.between, []) >>= finish limit

end Token

/-- The tokens of a document in which whole parts of numbers have at most `limit` characters. -/
def tokens? (limit : Nat) (text : String) : Option (List Token) := Token.scan limit text.toList

end TypedDefaults.Json
