import TypedDefaults.Java.Declaration
import TypedDefaults.Text.Quoted

/-!
# Descriptions of nodes

Trace keys and the messages about unfit nodes show a node in full: the name of
its class with every field and its value, the tag last. Sequences are shown in
parentheses, with a comma behind a single element, and strings are quoted.
-/

namespace TypedDefaults.Java

namespace Description

/-- A node with its fields in order. -/
def node (name : String) (fields : List (String × String)) : String :=
  name ++ "(" ++ Text.join ", " (fields.map fun (field, value) => field ++ "=" ++ value) ++ ")"

/-- A sequence of described elements. -/
def sequence : List String → String
  | [] => "()"
  | [element] => "(" ++ element ++ ",)"
  | elements => "(" ++ Text.join ", " elements ++ ")"

/-- An optional value. -/
def optional {α : Type} (describe : α → String) : Option α → String
  | none => "None"
  | some value => describe value

/-- A truth value. -/
def boolean (value : Bool) : String := if value then "True" else "False"

/-- A sequence of strings. -/
def strings (values : List String) : String := sequence (values.map Text.quoted)

/-- The field with the tag of a node. -/
def tag (name : String) : String × String := ("node", Text.quoted name)

/-- The description of a class of a list of names, each enclosed by the names after it. -/
def classNames (name : String) : List String → String
  | [] => node "ClassType" [("fqn", Text.quoted name), ("owner", "None"), tag "class"]
  | owner :: around =>
    node "ClassType"
      [("fqn", Text.quoted name), ("owner", classNames owner around), tag "class"]

end Description

open Description

/-- The description of a class type. -/
def ClassType.describe (type : ClassType) : String := classNames type.qualifiedName type.enclosing

mutual

/-- The description of a type. -/
def JavaType.describe : JavaType → String
  | .primitive keyword => node "Primitive" [("keyword", Text.quoted keyword), tag "primitive"]
  | .named type => type.describe
  | .generic base arguments =>
    node "Parameterized"
      [("base", base.describe), ("parameters", sequence (JavaType.describeAll arguments)),
       tag "parameterized"]
  | .array element => node "ArrayType" [("element", element.describe), tag "array"]

/-- The descriptions of types. -/
def JavaType.describeAll : List JavaType → List String
  | [] => []
  | type :: rest => type.describe :: JavaType.describeAll rest

end

/-- The description of a type that may be unknown. -/
def describeType? : Option JavaType → String := optional JavaType.describe

/-- The description of a symbol. -/
def Symbol.describe (symbol : Symbol) : String :=
  node "Variable"
    [("owner", optional ClassType.describe symbol.owner), ("name", Text.quoted symbol.name),
     ("type", describeType? symbol.type), tag "variable"]

/-- The description of an identifier. -/
def Identifier.describe (name : Identifier) : String :=
  node "Identifier"
    [("name", Text.quoted name.name), ("field_type", optional Symbol.describe name.symbol),
     ("type", describeType? name.type), tag "identifier"]

/-- The description of a call from those of its parts. -/
def describeCall (name receiver arguments : String) (type : Option JavaType) : String :=
  node "MethodInvocation"
    [("name", Text.quoted name), ("select", receiver), ("arguments", arguments),
     ("type", describeType? type), tag "method_invocation"]

mutual

/-- The description of an expression. -/
def Expression.describe : Expression → String
  | .literal token type =>
    node "LiteralExpr"
      [("value_source", Text.quoted token), ("type", describeType? type), tag "literal"]
  | .identifier name => name.describe
  | .fieldAccess target name type =>
    node "FieldAccess"
      [("target", target.describe), ("name", name.describe), ("type", describeType? type),
       tag "field_access"]
  | .call name none arguments type =>
    describeCall name "None" (sequence (Expression.describeAll arguments)) type
  | .call name (some receiver) arguments type =>
    describeCall name receiver.describe (sequence (Expression.describeAll arguments)) type
  | .arrayInitializer elements =>
    node "ArrayInitializer"
      [("elements", sequence (Expression.describeAll elements)), tag "array_initializer"]
  | .assignment target value =>
    node "Assignment"
      [("variable", target.describe), ("value", value.describe), tag "assignment"]

/-- The descriptions of expressions. -/
def Expression.describeAll : List Expression → List String
  | [] => []
  | expression :: rest => expression.describe :: Expression.describeAll rest

end

/-- The description of an annotation. -/
def AnnotationUse.describe (use : AnnotationUse) : String :=
  node "Annotation"
    [("annotation_type", use.type.describe), ("name", Text.quoted use.name),
     ("arguments", optional (fun list => sequence (list.map Expression.describe)) use.arguments),
     tag "annotation"]

/-- The description of a sequence of annotations. -/
def describeAnnotations (annotations : List AnnotationUse) : String :=
  sequence (annotations.map AnnotationUse.describe)

/-- The description of a field. -/
def FieldDeclaration.describe (declaration : FieldDeclaration) : String :=
  node "FieldDeclaration"
    [("name", Text.quoted declaration.name), ("type", describeType? declaration.type),
     ("modifiers", strings declaration.modifiers),
     ("leading_annotations", describeAnnotations declaration.annotations),
     ("initializer", optional Expression.describe declaration.initializer), tag "field"]

/-- The description of a method. -/
def MethodDeclaration.describe (declaration : MethodDeclaration) : String :=
  node "MethodDeclaration"
    [("name", Text.quoted declaration.name), ("return_type", describeType? declaration.returnType),
     ("modifiers", strings declaration.modifiers),
     ("leading_annotations", describeAnnotations declaration.annotations),
     ("parameters", strings declaration.parameters), ("body", optional strings declaration.body),
     tag "method"]

/-- The description of a class from its header and the descriptions of its members. -/
def ClassHeader.describe (header : ClassHeader) (body : List String) : String :=
  node "ClassDeclaration"
    [("name", Text.quoted header.name), ("type", header.type.describe),
     ("modifiers", strings header.modifiers),
     ("leading_annotations", describeAnnotations header.annotations), ("body", sequence body),
     tag "class_declaration"]

mutual

/-- The description of a member. -/
def Member.describe : Member → String
  | .field declaration => declaration.describe
  | .method declaration => declaration.describe
  | .nested header body => header.describe (Member.describeAll body)

/-- The descriptions of members. -/
def Member.describeAll : List Member → List String
  | [] => []
  | member :: rest => member.describe :: Member.describeAll rest

end

/-- The description of an import. -/
def Import.describe (entry : Import) : String :=
  node "Import"
    [("fqn", Text.quoted entry.name), ("static", boolean entry.isStatic), tag "import"]

/-- The description of a file. -/
def CompilationUnit.describe (unit : CompilationUnit) : String :=
  node "CompilationUnit"
    [("source_path", Text.quoted unit.sourcePath), ("package", optional Text.quoted unit.package),
     ("imports", sequence (unit.imports.map Import.describe)),
     ("classes", sequence (unit.classes.map fun each =>
       each.header.describe (Member.describeAll each.body))),
     tag "compilation_unit"]

end TypedDefaults.Java
