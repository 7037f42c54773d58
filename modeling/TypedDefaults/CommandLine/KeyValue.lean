import TypedDefaults.Configuration.Setting
import TypedDefaults.Message
import TypedDefaults.Text.LowerCase

/-!
# Settings written as words

A word of the form `name=value` is a setting. A value is a truth value, a whole
number or a decimal where it reads as one, and a text otherwise. Blanks around
name and value do not count. Words of another form are reported and dropped.
-/

namespace TypedDefaults.KeyValue

/-- The setting that a value reads as. -/
def readValue (written : String) : Setting :=
  let word := Text.lower written
  if word = "true" then .boolean true
  else if word = "false" then .boolean false
  else
    match Numeral.integer? written, Numeral.binary64? written with
    | some value, _ => .integer value
    | none, some value => .decimal value
    | none, none => .text written

/-- The name and value of a word. -/
def read? (word : String) : Option (String × Setting) :=
  match Text.cutFirst? '=' word.toList with
  | some (before, after) =>
    let name := Text.trim (String.ofList before)
    if name.isEmpty then none else some (name, readValue (Text.trim (String.ofList after)))
  | none => none

/-- The settings among words, in order. -/
def settings (words : List String) : Settings := words.filterMap read?

/-- The warning about a word that is no setting. -/
def ignored (word : String) : Message :=
  ⟨.warning, "Ignoring config override '" ++ word ++ "', expected key=value"⟩

/-- The warnings about words that are no settings, in order. -/
def warnings (words : List String) : List Message :=
  (words.filter fun word => (read? word).isNone).map ignored

end TypedDefaults.KeyValue
