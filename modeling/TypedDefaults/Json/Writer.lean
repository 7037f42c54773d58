import TypedDefaults.Decimal.Shortest
import TypedDefaults.Json.Value
import TypedDefaults.Text.Parts
import TypedDefaults.Text.Quoted

/-!
# Writing JSON documents

Documents are written with one part a line and a number of blanks per level, or
all on one line. Empty containers are written without a line break. Strings
keep every character but the quote, the backslash and the controls below the
space; in lines of ASCII they keep what is printable there, and hold the UTF-16
code units of all other characters as escapes. A value is written in front of
the text that follows it, so nested values are not copied again at every level.
-/

namespace TypedDefaults.Json

/-- How a document is laid out. -/
inductive Layout where
  | oneLine
  | lines (indent : Nat)
  | asciiLines (indent : Nat)
  deriving DecidableEq, Inhabited

namespace Layout

/-- The layout keeps a character in a string, unless the character is special or a control. -/
def keeps (layout : Layout) (character : Char) : Bool :=
  match layout with
  | oneLine | lines _ => true
  | asciiLines _ => character.toNat < 0x7F

/-- The start of a line at a level. -/
def lineStart (layout : Layout) (level : Nat) : List Char :=
  match layout with
  | oneLine => []
  | lines indent | asciiLines indent => '\n' :: List.replicate (indent * level) ' '

/-- What stands between two parts of a container. -/
def separator (layout : Layout) (level : Nat) : List Char :=
  match layout with
  | oneLine => [',', ' ']
  | lines _ | asciiLines _ => ',' :: layout.lineStart level

end Layout

/-- The escape of a code unit. -/
def writtenUnit (unit : Nat) : List Char := '\\' :: 'u' :: Text.hexDigits 4 unit

/-- The escapes of the code units of a character: itself, or two surrogates for one beyond the basic
plane. -/
def writtenUnits (character : Char) : List Char :=
  let code := character.toNat
  if code < 0x10000 then writtenUnit code
  else
    writtenUnit (0xD800 + (code - 0x10000) / 0x400) ++
      writtenUnit (0xDC00 + (code - 0x10000) % 0x400)

/-- A character inside a written string. -/
def escapedCharacter (layout : Layout) (character : Char) : List Char :=
  let code := character.toNat
  if character = '"' || character = '\\' then ['\\', character]
  else if code = 0x8 then ['\\', 'b']
  else if code = 0x9 then ['\\', 't']
  else if code = 0xA then ['\\', 'n']
  else if code = 0xC then ['\\', 'f']
  else if code = 0xD then ['\\', 'r']
  else if code < 0x20 then writtenUnit code
  else if layout.keeps character then [character]
  else writtenUnits character

/-- A string between quotes. -/
def writtenString (layout : Layout) (value : String) : List Char :=
  '"' :: value.toList.flatMap (escapedCharacter layout) ++ ['"']

/-- The text of a number that is not whole. -/
def writtenDecimal : Binary64 → List Char
  | .notANumber => "NaN".toList
  | .infinite negative => if negative then "-Infinity".toList else "Infinity".toList
  | value => value.text.toList

mutual

/-- A value at a level of nesting, in front of a text. -/
def writtenBefore (layout : Layout) (level : Nat) (text : List Char) : Json → List Char
  | .null => "null".toList ++ text
  | .boolean value => (if value then "true".toList else "false".toList) ++ text
  | .integer value => (toString value).toList ++ text
  | .decimal value => writtenDecimal value ++ text
  | .string value => writtenString layout value ++ text
  | .array [] => '[' :: ']' :: text
  | .array (first :: rest) =>
    '[' :: layout.lineStart (level + 1) ++
      writtenBefore layout (level + 1)
        (elementsBefore layout (level + 1) (layout.lineStart level ++ ']' :: text) rest) first
  | .object [] => '{' :: '}' :: text
  | .object ((name, value) :: rest) =>
    '{' :: layout.lineStart (level + 1) ++ writtenString layout name ++ ':' :: ' ' ::
      writtenBefore layout (level + 1)
        (fieldsBefore layout (level + 1) (layout.lineStart level ++ '}' :: text) rest) value

/-- The elements of an array after the first one, in front of a text. -/
def elementsBefore (layout : Layout) (level : Nat) (text : List Char) : List Json → List Char
  | [] => text
  | element :: rest =>
    layout.separator level ++
      writtenBefore layout level (elementsBefore layout level text rest) element

/-- The fields of an object after the first one, in front of a text. -/
def fieldsBefore (layout : Layout) (level : Nat) (text : List Char) :
    List (String × Json) → List Char
  | [] => text
  | (name, value) :: rest =>
    layout.separator level ++ writtenString layout name ++ ':' :: ' ' ::
      writtenBefore layout level (fieldsBefore layout level text rest) value

end

/-- The text of a document. -/
def write (layout : Layout) (document : Json) : String :=
  String.ofList (writtenBefore layout 0 [] document)

end TypedDefaults.Json
