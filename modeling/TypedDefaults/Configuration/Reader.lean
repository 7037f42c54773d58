import TypedDefaults.Configuration.Basic
import TypedDefaults.Configuration.Setting
import TypedDefaults.Text.Identifier
import TypedDefaults.Text.Word

/-!
# Reading a configuration

A configuration is read from settings. Names of annotations must be qualified,
the attribute must be an identifier, and there must be a worker at least; blanks
around a name are dropped. A setting that is absent leaves the default, and
settings of other names are passed over. Every problem is reported, in the order
of the configuration.
-/

namespace TypedDefaults

namespace Configuration

/-- The first character of a segment of a qualified name. -/
def isSegmentStart (character : Char) : Bool :=
  character.isAlpha || character = '_' || character = '$'

/-- A further character of a segment. -/
def isSegmentPart (character : Char) : Bool := Text.isWord character || character = '$'

/-- A segment of a qualified name. -/
def isSegment : List Char → Bool
  | [] => false
  | first :: rest => isSegmentStart first && rest.all isSegmentPart

/-- A name of at least two segments. -/
def isQualified (name : String) : Bool :=
  let segments := Text.parts ['.'] name.toList
  decide (2 ≤ segments.length) && segments.all isSegment

/-- Accepts a trimmed name, or complains about the name as given. -/
def acceptName (accepts : String → Bool) (complaint : String) (given : String) : Checked String :=
  let name := Text.trim given
  if accepts name then .valid name
  else .problem (.refused (complaint ++ " '" ++ given ++ "'"))

/-- Accepts the qualified name of an annotation. -/
def acceptQualified : String → Checked String :=
  acceptName isQualified "Expected a fully qualified type name, got"

/-- Accepts the name of an attribute. -/
def acceptAttribute : String → Checked String :=
  acceptName Text.isIdentifier "Invalid attribute name:"

/-- Accepts a number of workers. -/
def acceptWorkers (count : Int) : Checked Int :=
  if 1 ≤ count then .valid count else .problem .belowMinimum

/-- Reads the setting of a name; where there is none, the default stands. -/
def setting {α : Type} (settings : Settings) (name : String) (default : α)
    (read : Setting → Checked α) : Checked α :=
  match Setting.find? name settings with
  | some value => (read value).under (.name name)
  | none => .valid default

/-- Reads a value and accepts it or not. -/
def reading {α β : Type} (read : Setting → Checked α) (accept : α → Checked β) (value : Setting) :
    Checked β :=
  match read value with
  | .valid value => accept value
  | .invalid issues => .invalid issues

/-- The configuration that settings stand for. -/
def ofSettings (settings : Settings) : Checked Configuration :=
  let default : Configuration := {}
  Configuration.mk
    <$> setting settings "attribute_holder" default.attributeHolder
      (reading Setting.readText acceptQualified)
    <*> setting settings "attribute_name" default.attributeName
      (reading Setting.readText acceptAttribute)
    <*> setting settings "value_holder" default.valueHolder
      (reading Setting.readText acceptQualified)
    <*> setting settings "inline_container_literals" default.inlineContainerLiterals
      Setting.readTruth
    <*> setting settings "emit_string_holder" default.emitStringHolder Setting.readTruth
    <*> setting settings "add_imports" default.addImports Setting.readTruth
    <*> setting settings "require_holder_usage" default.requireHolderUsage Setting.readTruth
    <*> setting settings "workers" default.workers (reading Setting.readWhole acceptWorkers)

end Configuration

end TypedDefaults
