import TypedDefaults.Java.Declaration
import TypedDefaults.Json.Writer

/-!
# Writing tree documents

Every node is written with all its fields in declaration order, the tag last.
Absent values are null, and lists are written even when they are empty.
-/

namespace TypedDefaults

open Java

namespace Document

/-- A node with its fields in order. -/
def node (tag : String) (fields : List (String × Json)) : Json :=
  .object (fields ++ [("node", .string tag)])

/-- A value that may be absent. -/
def optional {α : Type} (write : α → Json) : Option α → Json
  | none => .null
  | some value => write value

/-- A list of strings. -/
def strings (values : List String) : Json := .array (values.map Json.string)

/-- The class of a list of names, each enclosed by the names after it. -/
def ofClassNames (name : String) : List String → Json
  | [] => node "class" [("fqn", .string name), ("owner", .null)]
  | owner :: around => node "class" [("fqn", .string name), ("owner", ofClassNames owner around)]

/-- A class type. -/
def ofClass (type : ClassType) : Json := ofClassNames type.qualifiedName type.enclosing

mutual

/-- A type. -/
def ofType : JavaType → Json
  | .primitive keyword => node "primitive" [("keyword", .string keyword)]
  | .named type => ofClass type
  | .generic base arguments =>
    node "parameterized" [("base", ofClass base), ("parameters", .array (ofTypes arguments))]
  | .array element => node "array" [("element", ofType element)]

/-- Types. -/
def ofTypes : List JavaType → List Json
  | [] => []
  | type :: rest => ofType type :: ofTypes rest

end

/-- A symbol. -/
def ofSymbol (symbol : Symbol) : Json :=
  node "variable"
    [("owner", optional ofClass symbol.owner), ("name", .string symbol.name),
     ("type", optional ofType symbol.type)]

/-- An identifier. -/
def ofIdentifier (name : Identifier) : Json :=
  node "identifier"
    [("name", .string name.name), ("field_type", optional ofSymbol name.symbol),
     ("type", optional ofType name.type)]

/-- A call from its parts. -/
def ofCall (name : String) (receiver : Json) (arguments : List Json) (type : Option JavaType) :
    Json :=
  node "method_invocation"
    [("name", .string name), ("select", receiver), ("arguments", .array arguments),
     ("type", optional ofType type)]

mutual

/-- An expression. -/
def ofExpression : Expression → Json
  | .literal token type =>
    node "literal" [("value_source", .string token), ("type", optional ofType type)]
  | .identifier name => ofIdentifier name
  | .fieldAccess target name type =>
    node "field_access"
      [("target", ofExpression target), ("name", ofIdentifier name), ("type", optional ofType type)]
  | .call name none arguments type => ofCall name .null (ofExpressions arguments) type
  | .call name (some receiver) arguments type =>
    ofCall name (ofExpression receiver) (ofExpressions arguments) type
  | .arrayInitializer elements =>
    node "array_initializer" [("elements", .array (ofExpressions elements))]
  | .assignment target value =>
    node "assignment" [("variable", ofIdentifier target), ("value", ofExpression value)]

/-- Expressions. -/
def ofExpressions : List Expression → List Json
  | [] => []
  | expression :: rest => ofExpression expression :: ofExpressions rest

end

/-- An annotation. -/
def ofAnnotationUse (use : AnnotationUse) : Json :=
  node "annotation"
    [("annotation_type", ofClass use.type), ("name", .string use.name),
     ("arguments", optional (fun list => .array (ofExpressions list)) use.arguments)]

/-- A list of annotations. -/
def ofAnnotations (annotations : List AnnotationUse) : Json :=
  .array (annotations.map ofAnnotationUse)

/-- A field. -/
def ofField (declaration : FieldDeclaration) : Json :=
  node "field"
    [("name", .string declaration.name), ("type", optional ofType declaration.type),
     ("modifiers", strings declaration.modifiers),
     ("leading_annotations", ofAnnotations declaration.annotations),
     ("initializer", optional ofExpression declaration.initializer)]

/-- A method. -/
def ofMethod (declaration : MethodDeclaration) : Json :=
  node "method"
    [("name", .string declaration.name), ("return_type", optional ofType declaration.returnType),
     ("modifiers", strings declaration.modifiers),
     ("leading_annotations", ofAnnotations declaration.annotations),
     ("parameters", strings declaration.parameters), ("body", optional strings declaration.body)]

/-- A class from its header and its written members. -/
def ofHeader (header : ClassHeader) (body : List Json) : Json :=
  node "class_declaration"
    [("name", .string header.name), ("type", ofClass header.type),
     ("modifiers", strings header.modifiers),
     ("leading_annotations", ofAnnotations header.annotations), ("body", .array body)]

mutual

/-- A member. -/
def ofMember : Member → Json
  | .field declaration => ofField declaration
  | .method declaration => ofMethod declaration
  | .nested header body => ofHeader header (ofMembers body)

/-- Members. -/
def ofMembers : List Member → List Json
  | [] => []
  | member :: rest => ofMember member :: ofMembers rest

end

/-- A class declaration. -/
def ofClassDeclaration (declaration : ClassDeclaration) : Json :=
  ofHeader declaration.header (ofMembers declaration.body)

/-- An import. -/
def ofImport (entry : Import) : Json :=
  node "import" [("fqn", .string entry.name), ("static", .boolean entry.isStatic)]

/-- A compilation unit. -/
def ofUnit (unit : CompilationUnit) : Json :=
  node "compilation_unit"
    [("source_path", .string unit.sourcePath), ("package", optional Json.string unit.package),
     ("imports", .array (unit.imports.map ofImport)),
     ("classes", .array (unit.classes.map ofClassDeclaration))]

/-- The text of a document with a number of blanks a level. -/
def print (indent : Nat) (unit : CompilationUnit) : String := (ofUnit unit).write (.lines indent)

end Document

end TypedDefaults
