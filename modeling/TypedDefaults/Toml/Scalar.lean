import TypedDefaults.Decimal.Numeral
import TypedDefaults.Toml.Value

/-!
# Scalar values of TOML

Strings in their four forms, numbers, and points in time. Readers take the text
from where the value starts and give the value with the text behind it. A value
ends where its form ends: what may follow is for the reader of the whole to say.
-/

namespace TypedDefaults.Toml

/-- Why a text is no document: it is malformed, or holds a whole number with too many digits. -/
inductive Failure where
  | malformed
  | oversized (numeral : OversizedNumeral)
  deriving DecidableEq, Repr, Inhabited

/-- A value and the text behind it, or a failure. -/
abbrev Reading (α : Type) := Except Failure (α × List Char)

/-- The text is malformed. -/
def malformed {α : Type} : Except Failure α := .error .malformed

/-- Blanks within a line. -/
def isBlank (character : Char) : Bool := character = ' ' || character = '\t'

/-- Blanks and line feeds. -/
def isSpace (character : Char) : Bool := isBlank character || character = '\n'

/-- Drops blanks. -/
def skipBlanks (text : List Char) : List Char := text.dropWhile isBlank

/-- A control character other than the tab; none may be written as it is within a line. -/
def isControl (character : Char) : Bool :=
  character ≠ '\t' && (character.toNat < 0x20 || character.toNat = 0x7F)

/-- The text behind a beginning, if it begins so. -/
def dropBeginning? (beginning : String) (text : List Char) : Option (List Char) :=
  if beginning.toList.isPrefixOf text then some (text.drop beginning.length) else none

/-- The value of hexadecimal digits. -/
def hexValue? (digits : List Char) : Option Nat :=
  digits.foldlM (fun value digit =>
    if digit.isDigit then some (value * 16 + (digit.toNat - 0x30))
    else if 'a' ≤ digit ∧ digit ≤ 'f' then some (value * 16 + (digit.toNat - 0x57))
    else if 'A' ≤ digit ∧ digit ≤ 'F' then some (value * 16 + (digit.toNat - 0x37))
    else none) 0

/-- The character with the code written in the first `count` characters. -/
def codedCharacter (count : Nat) (text : List Char) : Reading (List Char) :=
  let digits := text.take count
  match hexValue? digits with
  | some code =>
    if digits.length = count ∧ code.isValidChar then .ok ([Char.ofNat code], text.drop count)
    else malformed
  | none => malformed

/-- A line feed behind a backslash, with the blanks around it, stands for nothing. -/
def continuedLine (text : List Char) : Reading (List Char) :=
  match skipBlanks text with
  | [] => .ok ([], [])
  | '\n' :: rest => .ok ([], rest.dropWhile isSpace)
  | _ => malformed

/-- What an escape sequence stands for; `text` is what follows the backslash. -/
def escaped (multiline : Bool) : List Char → Reading (List Char)
  | 'b' :: rest => .ok (['\x08'], rest)
  | 't' :: rest => .ok (['\t'], rest)
  | 'n' :: rest => .ok (['\n'], rest)
  | 'f' :: rest => .ok (['\x0c'], rest)
  | 'r' :: rest => .ok (['\r'], rest)
  | '"' :: rest => .ok (['"'], rest)
  | '\\' :: rest => .ok (['\\'], rest)
  | 'u' :: rest => codedCharacter 4 rest
  | 'U' :: rest => codedCharacter 8 rest
  | first :: rest =>
    if multiline && isSpace first then continuedLine (first :: rest) else malformed
  | [] => malformed

/-- The rest of a string between double quotes. `budget` bounds the number of steps. -/
def basicString (multiline : Bool) (budget : Nat) (text : List Char) : Reading (List Char) :=
  match budget, text with
  | 0, _ => malformed
  | _, [] => malformed
  | budget + 1, '"' :: rest =>
    match multiline, dropBeginning? "\"\"" rest with
    | false, _ => .ok ([], rest)
    | true, some rest => .ok ([], rest)
    | true, none =>
      (basicString multiline budget rest).map fun (more, rest) => ('"' :: more, rest)
  | budget + 1, '\\' :: rest =>
    match escaped multiline rest with
    | .error failure => .error failure
    | .ok (meant, rest) =>
      (basicString multiline budget rest).map fun (more, rest) => (meant ++ more, rest)
  | budget + 1, character :: rest =>
    if isControl character && !(multiline && character = '\n') then malformed
    else (basicString multiline budget rest).map fun (more, rest) => (character :: more, rest)

/-- The rest of a string between single quotes. -/
def literalString (multiline : Bool) : List Char → Reading (List Char)
  | [] => malformed
  | character :: rest =>
    match decide (character = '\''), multiline, dropBeginning? "''" rest with
    | true, false, _ => .ok ([], rest)
    | true, true, some rest => .ok ([], rest)
    | _, _, _ =>
      if isControl character && !(multiline && character = '\n') then malformed
      else (literalString multiline rest).map fun (more, rest) => (character :: more, rest)

/-- Up to two more quotes behind the end of a string of several lines belong to it. -/
def withFinalQuotes (quote : Char) (read : List Char × List Char) : List Char × List Char :=
  match read.2 with
  | first :: second :: rest =>
    if first = quote && second = quote then (read.1 ++ [quote, quote], rest)
    else if first = quote then (read.1 ++ [quote], second :: rest)
    else read
  | [first] => if first = quote then (read.1 ++ [quote], []) else read
  | [] => read

/-- The text without a line feed at its start. -/
def withoutFirstLineFeed : List Char → List Char
  | '\n' :: rest => rest
  | text => text

/-- A string that starts here, in one of the two forms of one line. -/
def lineString? (text : List Char) : Option (Reading String) :=
  let finish (read : Reading (List Char)) : Reading String :=
    read.map fun (characters, rest) => (String.ofList characters, rest)
  match text with
  | '"' :: rest => some (finish (basicString false (rest.length + 1) rest))
  | '\'' :: rest => some (finish (literalString false rest))
  | _ => none

/-- A string that starts here, in any form. -/
def string? (text : List Char) : Option (Reading String) :=
  let finish (quote : Char) (read : Reading (List Char)) : Reading String :=
    read.map fun found =>
      let (characters, rest) := withFinalQuotes quote found
      (String.ofList characters, rest)
  match dropBeginning? "\"\"\"" text, dropBeginning? "'''" text with
  | some rest, _ =>
    let inner := withoutFirstLineFeed rest
    some (finish '"' (basicString true (inner.length + 1) inner))
  | none, some rest => some (finish '\'' (literalString true (withoutFirstLineFeed rest)))
  | none, none => lineString? text

/-- Digits with single underscores between them, behind a first digit. -/
def furtherDigits (isDigit : Char → Bool) : List Char → List Char × List Char
  | '_' :: digit :: rest =>
    if isDigit digit then
      let (more, rest) := furtherDigits isDigit rest
      (digit :: more, rest)
    else ([], '_' :: digit :: rest)
  | digit :: rest =>
    if isDigit digit then
      let (more, rest) := furtherDigits isDigit rest
      (digit :: more, rest)
    else ([], digit :: rest)
  | [] => ([], [])

/-- A run of digits, if there is one. -/
def digitRun? (isDigit : Char → Bool) : List Char → Option (List Char × List Char)
  | [] => none
  | first :: rest =>
    if isDigit first then
      let (more, rest) := furtherDigits isDigit rest
      some (first :: more, rest)
    else none

/-- The value of digits in a base. -/
def valueIn (base : Nat) (digits : List Char) : Nat :=
  digits.foldl (fun value digit => value * base + ((hexValue? [digit]).getD 0)) 0

/-- A whole number with a prefix for its base. -/
def based? (text : List Char) : Option (Int × List Char) :=
  let read (base : Nat) (isDigit : Char → Bool) (rest : List Char) : Option (Int × List Char) :=
    (digitRun? isDigit rest).map fun (digits, rest) => (Int.ofNat (valueIn base digits), rest)
  match text with
  | '0' :: 'x' :: rest => read 16 (fun digit => (hexValue? [digit]).isSome) rest
  | '0' :: 'b' :: rest => read 2 (fun digit => digit = '0' || digit = '1') rest
  | '0' :: 'o' :: rest => read 8 (fun digit => '0' ≤ digit && digit ≤ '7') rest
  | _ => none

/-- The digits in front of the point: a zero alone, or digits that start with no zero. -/
def wholeDigits? : List Char → Option (List Char × List Char)
  | '0' :: rest => some (['0'], rest)
  | text => digitRun? Char.isDigit text

/-- A point with digits, if they stand here. -/
def fraction? : List Char → Option (List Char × List Char)
  | '.' :: rest => digitRun? Char.isDigit rest
  | _ => none

/-- An exponent, if it stands here. -/
def exponent? : List Char → Option (Int × List Char)
  | mark :: rest =>
    if mark = 'e' || mark = 'E' then
      let (negative, rest) := Numeral.splitSign rest
      (digitRun? Char.isDigit rest).map fun (digits, rest) =>
        (Numeral.signed negative (Numeral.leadingDigits digits).1, rest)
    else none
  | [] => none

/-- A decimal number, whole or not, if one starts here. -/
def decimal? (text : List Char) : Option (Reading Toml) :=
  let (negative, unsigned) := Numeral.splitSign text
  (wholeDigits? unsigned).map fun (whole, rest) =>
    let fraction := fraction? rest
    let (fractionDigits, rest) := fraction.getD ([], rest)
    let exponent := exponent? rest
    let (power, rest) := exponent.getD (0, rest)
    let digits := (Numeral.leadingDigits (whole ++ fractionDigits)).1
    if fraction.isSome || exponent.isSome then
      let exponent := power - Int.ofNat fractionDigits.length
      .ok (decimal (Binary64.ofDecimal negative digits exponent), rest)
    else if digits.length ≤ Numeral.digitLimit then
      .ok (integer (Numeral.signed negative digits), rest)
    else .error (.oversized ⟨digits.length⟩)

/-- An infinity or "not a number", if one starts here. -/
def unusual? (text : List Char) : Option (Toml × List Char) :=
  let (negative, unsigned) := Numeral.splitSign text
  match dropBeginning? "inf" unsigned, dropBeginning? "nan" unsigned with
  | some rest, _ => some (decimal (.infinite negative), rest)
  | none, some rest => some (decimal .notANumber, rest)
  | none, none => none

/-- A number of exactly `count` digits within bounds, if it stands here. -/
def field? (count least greatest : Nat) (text : List Char) : Option (Nat × List Char) :=
  let digits := text.take count
  if digits.length = count ∧ digits.all Char.isDigit then
    let value := valueIn 10 digits
    if least ≤ value ∧ value ≤ greatest then some (value, text.drop count) else none
  else none

/-- The text behind a character, if it stands here. -/
def mark? (mark : Char) : List Char → Option (List Char)
  | first :: rest => if first = mark then some rest else none
  | [] => none

/-- The text behind a time of day, if one stands here. -/
def time? (text : List Char) : Option (List Char) := do
  let (_, rest) ← field? 2 0 23 text
  let (_, rest) ← field? 2 0 59 (← mark? ':' rest)
  let (_, rest) ← field? 2 0 59 (← mark? ':' rest)
  match rest with
  | '.' :: digit :: more =>
    some (if digit.isDigit then more.dropWhile Char.isDigit else rest)
  | _ => some rest

/-- The text behind an offset from universal time; where there is none, the text itself. -/
def afterOffset (text : List Char) : List Char :=
  match text with
  | first :: rest =>
    if first = 'Z' || first = 'z' then rest
    else if first = '+' || first = '-' then
      let offset := do
        let (_, rest) ← field? 2 0 23 rest
        let (_, rest) ← field? 2 0 59 (← mark? ':' rest)
        some rest
      offset.getD text
    else text
  | [] => []

/-- The number of days of a month. -/
def daysIn (year month : Nat) : Nat :=
  if month = 2 then
    if year % 4 = 0 ∧ (year % 100 ≠ 0 ∨ year % 400 = 0) then 29 else 28
  else if month = 4 ∨ month = 6 ∨ month = 9 ∨ month = 11 then 30
  else 31

/-- A date, alone or with a time of day, if one starts here. The day must exist. -/
def dateOrDateTime? (text : List Char) : Option (Reading Toml) := do
  let (year, rest) ← field? 4 0 9999 text
  let (month, rest) ← field? 2 1 12 (← mark? '-' rest)
  let (day, rest) ← field? 2 1 31 (← mark? '-' rest)
  let timed := match rest with
    | separator :: more =>
      if separator = 'T' || separator = 't' || separator = ' ' then time? more else none
    | [] => none
  if 1 ≤ year ∧ day ≤ daysIn year month then
    some (.ok (match timed with
      | some more => (dateTime, afterOffset more)
      | none => (date, rest)))
  else some malformed

/-- A value that is no container. -/
def scalar (text : List Char) : Reading Toml :=
  match string? text with
  | some read => read.map fun (value, rest) => (.string value, rest)
  | none =>
    match dropBeginning? "true" text, dropBeginning? "false" text with
    | some rest, _ => .ok (boolean true, rest)
    | none, some rest => .ok (boolean false, rest)
    | none, none =>
      match dateOrDateTime? text, time? text with
      | some read, _ => read
      | none, some rest => .ok (time, rest)
      | none, none =>
        match based? text, decimal? text with
        | some (value, rest), _ => .ok (integer value, rest)
        | none, some read => read
        | none, none =>
          match unusual? text with
          | some read => .ok read
          | none => malformed

end TypedDefaults.Toml
