import TypedDefaults.Anchor
import TypedDefaults.Java.Description
import TypedDefaults.Kind

/-!
# Field templates

A synthesized field is private and converts its anchor, a string, at run time.
The kind decides the type of the field and the conversion: a parse method of the
box for most scalars, the first character for characters, and a split at commas
for containers. A template is a field without its anchor.
-/

namespace TypedDefaults

open Java

/-- A run-time conversion of a string: a static method of a class of `java.lang`, or a method of
the string with literal arguments. -/
inductive Conversion where
  | static (owner name : String)
  | method (name : String) (arguments : List String)
  deriving DecidableEq, Repr, Inhabited

namespace Conversion

/-- The conversion of an anchor, as text. -/
def print (anchor : String) : Conversion → String
  | static owner name => owner ++ "." ++ name ++ "(" ++ anchor ++ ")"
  | method name arguments => anchor ++ "." ++ name ++ "(" ++ Text.join ", " arguments ++ ")"

/-- The conversion of an anchor, as an expression. -/
def build (anchor : Expression) : Conversion → Expression
  | static owner name =>
    let type := JavaType.named (.topLevel ("java.lang." ++ owner))
    .call name (some (.identifier ⟨owner, none, some type⟩)) [anchor] none
  | method name arguments =>
    .call name (some anchor) (arguments.map fun token => .literal token none) none

end Conversion

/-- A field but for its anchor. -/
structure FieldTemplate where
  fieldName : String
  type : JavaType
  conversion : Conversion
  deriving DecidableEq, Inhabited

/-- Why a field could not be made. -/
inductive FieldError where
  | noTemplate (kind : Kind)
  | unfitAnchor (fieldName description : String)
  | unresolvedAnchor (anchor : UnresolvedAnchor)
  | entryWithoutTemplate (fieldName : String)
  deriving DecidableEq, Repr, Inhabited

/-- The text of an error. -/
def FieldError.message : FieldError → String
  | noTemplate kind => "No field template for kind '" ++ kind.word ++ "'"
  | unfitAnchor fieldName description =>
    "Template '" ++ fieldName ++ "' cannot take anchor " ++ description
  | unresolvedAnchor anchor => anchor.message
  | entryWithoutTemplate fieldName => "Entry '" ++ fieldName ++ "' has no field template"

namespace FieldTemplate

/-- The type and conversion of the fields of a kind. -/
def parts? : Kind → Option (JavaType × Conversion)
  | .boolean => some (.primitive "boolean", .static "Boolean" "parseBoolean")
  | .byte => some (.primitive "byte", .static "Byte" "parseByte")
  | .char => some (.primitive "char", .method "charAt" ["0"])
  | .short => some (.primitive "short", .static "Short" "parseShort")
  | .int => some (.primitive "int", .static "Integer" "parseInt")
  | .long => some (.primitive "long", .static "Long" "parseLong")
  | .float => some (.primitive "float", .static "Float" "parseFloat")
  | .double => some (.primitive "double", .static "Double" "parseDouble")
  | .list => some (.stringArray, .method "split" ["\",\""])
  | .array => some (.stringArray, .method "split" ["\",\""])
  | .set => some (.stringArray, .method "split" ["\",\""])
  | _ => none

/-- The template of a field of a kind. -/
def ofKind? (fieldName : String) (kind : Kind) : Option FieldTemplate :=
  (parts? kind).map fun (type, conversion) => ⟨fieldName, type, conversion⟩

/-- The template of a field of a kind, or the complaint that the kind has none. -/
def ofKind (fieldName : String) (kind : Kind) : Except FieldError FieldTemplate :=
  match ofKind? fieldName kind with
  | some template => .ok template
  | none => .error (.noTemplate kind)

/-- What stands for the anchor in the text of a template. -/
def placeholder : String := "#\x7banchor\x7d"

/-- The text of a template. -/
def text (template : FieldTemplate) : String :=
  "private " ++ template.type.print ++ " " ++ template.fieldName ++ " = " ++
    template.conversion.print placeholder ++ ";"

/-- Literals, names and calls can be converted; array initializers and assignments cannot. -/
def accepts : Expression → Bool
  | .literal _ _ => true
  | .identifier _ => true
  | .fieldAccess _ _ _ => true
  | .call _ _ _ _ => true
  | .arrayInitializer _ => false
  | .assignment _ _ => false

/-- The field that a template becomes with an anchor. -/
def fill (template : FieldTemplate) (anchor : Expression) :
    Except FieldError FieldDeclaration :=
  if accepts anchor then
    .ok {
      name := template.fieldName
      type := some template.type
      modifiers := ["private"]
      annotations := []
      initializer := some (template.conversion.build anchor) }
  else .error (.unfitAnchor template.fieldName anchor.describe)

/-- Exactly the kinds that can be stored have a template. -/
theorem isSome_ofKind? (fieldName : String) (kind : Kind) :
    (ofKind? fieldName kind).isSome = kind.isStored := by
  cases kind <;> rfl

end FieldTemplate

end TypedDefaults
