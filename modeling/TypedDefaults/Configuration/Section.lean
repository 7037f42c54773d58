import TypedDefaults.Configuration.Setting
import TypedDefaults.Toml.Reader

/-!
# The section of a document

A TOML document keeps the settings in its table `tool.default_migrator`. Where
it has no such table, there are no settings. Something else in the place of
either table is an error.
-/

namespace TypedDefaults

/-- What stands in the place of a table, by the name of its form. -/
inductive SectionError where
  | noTools (form : String)
  | noSection (form : String)
  deriving DecidableEq, Repr, Inhabited

/-- The text of an error. -/
def SectionError.message : SectionError → String
  | noTools form => "'" ++ form ++ "' object has no attribute 'get'"
  | noSection form => "'" ++ form ++ "' object is not a mapping"

/-- The name of the form of a value. -/
def Toml.form : Toml → String
  | .boolean _ => "bool"
  | .integer _ => "int"
  | .decimal _ => "float"
  | .string _ => "str"
  | .date => "datetime.date"
  | .time => "datetime.time"
  | .dateTime => "datetime.datetime"
  | .array _ => "list"
  | .table _ => "dict"

namespace Setting

/-- The setting that a value of a document is. -/
def ofToml : Toml → Setting
  | .boolean value => .boolean value
  | .integer value => .integer value
  | .decimal value => .decimal value
  | .string value => .text value
  | _ => .compound

/-- The settings of a section. -/
def ofSection : Toml → Except SectionError Settings
  | .table fields => .ok (fields.map fun (name, value) => (name, ofToml value))
  | other => .error (.noSection other.form)

/-- The settings of a document. -/
def ofDocument (document : Toml.Fields) : Except SectionError Settings :=
  match Toml.find? "tool" document with
  | none => .ok []
  | some (.table tools) =>
    match Toml.find? "default_migrator" tools with
    | none => .ok []
    | some settings => ofSection settings
  | some other => .error (.noTools other.form)

end Setting

end TypedDefaults
