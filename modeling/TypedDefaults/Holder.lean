import TypedDefaults.Kind
import TypedDefaults.Text.Parts

/-!
# The holder annotations

Typed values are kept in a family of annotations nested in one outer
annotation, the value holder. Each kind has its holder; two more holders of the
family, for classes and enums, are declared but never written by a run. The
family is also printed as Java source, to be added to a build.
-/

namespace TypedDefaults.Holder

/-- The nested holder that takes values of a kind. Unsupported kinds have none. -/
def name? : Kind → Option String
  | .passThroughString => some "String"
  | .boolean => some "Boolean"
  | .byte => some "DefaultByte"
  | .char => some "DefaultChar"
  | .short => some "DefaultShort"
  | .int => some "Int"
  | .long => some "Long"
  | .float => some "Float"
  | .double => some "Double"
  | .list => some "List"
  | .array => some "Array"
  | .set => some "Set"
  | .unsupported => none

/-- The nested holders and the types of their values, in order of declaration. -/
def members : List (String × String) :=
  [("String", "java.lang.String"), ("Class", "java.lang.Class<?>"), ("Boolean", "boolean"),
   ("DefaultByte", "byte"), ("DefaultChar", "char"), ("DefaultShort", "short"), ("Int", "int"),
   ("Long", "long"), ("Float", "float"), ("Double", "double"), ("List", "java.lang.String[]"),
   ("Array", "java.lang.String[]"), ("Enum", "java.lang.String"), ("Set", "java.lang.String[]")]

/-- The targets and retention of an annotation of the family. -/
def retention (targets : String) : String :=
  "@Target(" ++ targets ++ ") @Retention(RetentionPolicy.RUNTIME)"

/-- The two lines of a nested holder inside an outer one of the given simple name. -/
def memberLines (outer : String) : String × String → List String
  | (name, valueType) =>
    ["  @" ++ outer ++ " " ++ retention "\x7bElementType.METHOD, ElementType.FIELD\x7d",
     "  public @interface " ++ name ++ " \x7b" ++ valueType ++ " value();\x7d"]

/-- The package of the outer holder; nothing when its name has no dot. -/
def packageLines (valueHolder : String) : List String :=
  match Text.cutLast? '.' valueHolder.toList with
  | some (package, _) =>
    if package.isEmpty then [] else ["package " ++ String.ofList package ++ ";", ""]
  | none => []

/-- The Java source of the whole family. -/
def schema (valueHolder : String) : String :=
  let outer := Text.afterLast '.' valueHolder
  Text.join "\n"
    (packageLines valueHolder ++
      ["import java.lang.annotation.*;", "", retention "ElementType.ANNOTATION_TYPE",
       "public @interface " ++ outer ++ " \x7b"] ++
      members.flatMap (memberLines outer) ++ ["\x7d"]) ++ "\n"

/-- Every kind but the unsupported one has a holder, and it is declared. -/
theorem name?_mem (kind : Kind) (name : String) (held : name? kind = some name) :
    name ∈ members.map Prod.fst := by
  cases kind <;> simp only [name?, Option.some.injEq, reduceCtorEq] at held <;> subst held <;>
    decide

end TypedDefaults.Holder
