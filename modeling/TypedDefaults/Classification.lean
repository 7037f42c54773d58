import TypedDefaults.Java.JavaType
import TypedDefaults.Kind

/-!
# From declared types to kinds

Primitive types and their boxes map one to one. String arrays, lists and sets
of strings are the containers. Strings are passed through. Everything else,
enums included, is unsupported.
-/

namespace TypedDefaults

open Java

/-- The qualified name of the class of strings. -/
def stringClass : String := "java.lang.String"

/-- The kinds of primitive keywords. Some front ends write strings as one. -/
def primitiveKinds : List (String × Kind) :=
  [("boolean", .boolean), ("byte", .byte), ("char", .char), ("short", .short), ("int", .int),
   ("long", .long), ("float", .float), ("double", .double), ("String", .passThroughString)]

/-- The kinds of boxes, and of strings. -/
def boxedKinds : List (String × Kind) :=
  [("java.lang.Boolean", .boolean), ("java.lang.Byte", .byte), ("java.lang.Character", .char),
   ("java.lang.Short", .short), ("java.lang.Integer", .int), ("java.lang.Long", .long),
   ("java.lang.Float", .float), ("java.lang.Double", .double), (stringClass, .passThroughString)]

/-- The kinds of generic containers. -/
def containerKinds : List (String × Kind) :=
  [("java.util.List", .list), ("java.util.Set", .set)]

/-- The type of strings, as a class or as a keyword. -/
def Java.JavaType.isString : JavaType → Bool
  | .named type => type.qualifiedName = stringClass
  | .primitive keyword => keyword = "String"
  | _ => false

/-- The kind of a name in a table, unsupported where the table has none. -/
def kindIn (table : List (String × Kind)) (name : String) : Kind :=
  (table.lookup name).getD .unsupported

/-- The kind of members of a declared type. -/
def Kind.ofType : Option JavaType → Kind
  | none => .unsupported
  | some (.primitive keyword) => kindIn primitiveKinds keyword
  | some (.named type) => kindIn boxedKinds type.qualifiedName
  | some (.array element) => if element.isString then .array else .unsupported
  | some (.generic base [argument]) =>
    if argument.isString then kindIn containerKinds base.qualifiedName else .unsupported
  | some (.generic _ _) => .unsupported

end TypedDefaults
