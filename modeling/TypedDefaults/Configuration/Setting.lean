import TypedDefaults.Decimal.Lenient
import TypedDefaults.Validation.Truth

/-!
# Settings

A setting is a value under a name, as it comes from a file, from words of the
command line or from a caller, before anybody has looked at it. Later settings
of a name override earlier ones. Reading a setting is lenient: truth values and
numbers may be written as text.
-/

namespace TypedDefaults

/-- A value that is to be read. Lists, tables and points in time are all compound. -/
inductive Setting where
  | null
  | boolean (value : Bool)
  | integer (value : Int)
  | decimal (value : Binary64)
  | text (value : String)
  | compound
  deriving DecidableEq, Repr, Inhabited

/-- Settings in order; of two with one name the later one counts. -/
abbrev Settings := List (String × Setting)

namespace Setting

/-- The last setting of a name, if there is one. -/
def find? (name : String) (settings : Settings) : Option Setting :=
  (settings.reverse.find? fun setting => setting.1 = name).map Prod.snd

/-- Reads a text. -/
def readText : Setting → Checked String
  | text value => .valid value
  | _ => .problem .notAString

/-- Reads a truth value. -/
def readTruth : Setting → Checked Bool
  | boolean value => .valid value
  | integer value => Truth.ofInteger value
  | decimal value => Truth.ofDecimal value
  | text word => Truth.ofWord word
  | null => .problem .notABoolean
  | compound => .problem .notABoolean

/-- Reads a whole number written as text. -/
def wholeOfText (written : String) : Checked Int :=
  if Numeral.startsOversized written.toList then .problem .oversizedInteger
  else
    match Numeral.lenientInteger? written.toList with
    | some value => .valid value
    | none => .problem .unreadableInteger

/-- Reads a number that may have a fraction as a whole number of 64 bits. -/
def wholeOfDecimal (value : Binary64) : Checked Int :=
  match value with
  | .finite _ _ _ =>
    match value.toInt? with
    | some whole =>
      if -Truth.wordBound < whole ∧ whole < Truth.wordBound then .valid whole
      else .problem .oversizedInteger
    | none => .problem .fractional
  | .infinite _ => .problem .notFinite
  | .notANumber => .problem .notFinite

/-- Reads a whole number. Truth values count as zero and one. -/
def readWhole : Setting → Checked Int
  | boolean value => .valid (if value then 1 else 0)
  | integer value => .valid value
  | decimal value => wholeOfDecimal value
  | text written => wholeOfText written
  | null => .problem .notAnInteger
  | compound => .problem .notAnInteger

end Setting

end TypedDefaults
