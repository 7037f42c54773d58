import TypedDefaults.Java.Declaration
import TypedDefaults.Json.Reader
import TypedDefaults.Validation.Truth

/-!
# Reading tree documents

A tree comes as a JSON document in which every node is an object with a tag. In
a slot for types, expressions or members the tag chooses the class of the node
and must be present; in a slot of one fixed class it may be left out. Fields
with a default may be left out as well, and unknown fields are passed over. All
problems are reported, in the order of the fields and depth first; a chosen tag
is a step of the place.
-/

namespace TypedDefaults

open Java

namespace Document

/-- A value inside a JSON value. -/
abbrev Part (json : Json) := { part : Json // sizeOf part < sizeOf json }

/-- A field of an object. -/
def part? (name : String) (json : Json) : Option (Part json) :=
  match found : json.field? name with
  | some part => some ⟨part, Json.sizeOf_field? found⟩
  | none => none

/-- The elements of a part that is an array. -/
def elements? {json : Json} (part : Part json) : Option (List (Part json)) :=
  match part with
  | ⟨.array elements, smaller⟩ =>
    some (elements.attach.map fun ⟨element, member⟩ =>
      ⟨element, by
        have inside := List.sizeOf_lt_of_mem member
        simp only [Json.array.sizeOf_spec] at smaller
        omega⟩)
  | _ => none

section Fields

variable {α : Type} {json : Json}

/-- A field that must be present. -/
def required (name : String) (json : Json) (read : Part json → Checked α) : Checked α :=
  match part? name json with
  | some part => (read part).under (.name name)
  | none => (Checked.problem .missing).under (.name name)

/-- A field that may be left out. -/
def defaulted (name : String) (json : Json) (default : α) (read : Part json → Checked α) :
    Checked α :=
  match part? name json with
  | some part => (read part).under (.name name)
  | none => .valid default

/-- A value that may be null. -/
def nullable (read : Part json → Checked α) (part : Part json) : Checked (Option α) :=
  match part.val with
  | .null => .valid none
  | _ => (read part).map some

/-- A list of values. -/
def listOf (read : Part json → Checked α) (part : Part json) : Checked (List α) :=
  match elements? part with
  | some elements => .sequence (elements.map read)
  | none => .problem .notAList

/-- A string. -/
def string (part : Part json) : Checked String :=
  match part.val with
  | .string value => .valid value
  | _ => .problem .notAString

/-- A truth value. -/
def truth (part : Part json) : Checked Bool :=
  match part.val with
  | .boolean value => .valid value
  | .integer value => Truth.ofDocumentInteger value
  | .decimal value => Truth.ofDecimal value
  | .string word => Truth.ofWord word
  | _ => .problem .notABoolean

end Fields

/-- The tag of a slot of one fixed class: absent or right. -/
def ownTag (tag : String) (json : Json) : Checked Unit :=
  match json.field? "node" with
  | none => .valid ()
  | some (.string found) =>
    if found = tag then .valid () else (Checked.problem .wrongTag).under (.name "node")
  | some _ => (Checked.problem .wrongTag).under (.name "node")

/-- A node in a slot of one fixed class. -/
def fixedNode {α : Type} (tag : String) (json : Json) (fields : Checked α) : Checked α :=
  match json with
  | .object _ => (fields.both (ownTag tag json)).map Prod.fst
  | _ => .problem .notANode

/-- A node in a slot for several classes. `choose` gives the fields of the class with a tag. -/
def taggedNode {α : Type} (json : Json) (choose : String → Option (Checked α)) : Checked α :=
  match json with
  | .object _ =>
    match json.field? "node" with
    | none => .problem .noTag
    | some (.string tag) =>
      match choose tag with
      | some fields => fields.under (.name tag)
      | none => .problem .unknownTag
    | some _ => .problem .unknownTag
  | _ => .problem .notAnObject

/-- The fields of a class type. -/
def classFields (json : Json) : Checked ClassType :=
  ClassType.within <$> required "fqn" json string
    <*> defaulted "owner" json none (nullable fun part =>
      fixedNode "class" part.val (classFields part.val))
termination_by sizeOf json
decreasing_by exact part.property

/-- A class type. -/
def readClass (json : Json) : Checked ClassType := fixedNode "class" json (classFields json)

/-- A type. -/
def readType (json : Json) : Checked JavaType :=
  taggedNode json fun tag =>
    if tag = "primitive" then some (.primitive <$> required "keyword" json string)
    else if tag = "class" then some (.named <$> classFields json)
    else if tag = "parameterized" then
      some (.generic <$> required "base" json (fun part => readClass part.val)
        <*> defaulted "parameters" json [] (listOf fun part => readType part.val))
    else if tag = "array" then
      some (.array <$> required "element" json fun part => readType part.val)
    else none
termination_by sizeOf json
decreasing_by all_goals exact part.property

/-- A type that may be null. -/
def typeField (name : String) (json : Json) : Checked (Option JavaType) :=
  defaulted name json none (nullable fun part => readType part.val)

/-- A symbol. Its owner must be given, though it may be null. -/
def readSymbol (json : Json) : Checked Symbol :=
  fixedNode "variable" json
    (Symbol.mk <$> required "owner" json (nullable fun part => readClass part.val)
      <*> required "name" json string <*> typeField "type" json)

/-- The fields of an identifier. -/
def identifierFields (json : Json) : Checked Identifier :=
  Identifier.mk <$> required "name" json string
    <*> defaulted "field_type" json none (nullable fun part => readSymbol part.val)
    <*> typeField "type" json

/-- An identifier. -/
def readIdentifier (json : Json) : Checked Identifier :=
  fixedNode "identifier" json (identifierFields json)

/-- An expression. -/
def readExpression (json : Json) : Checked Expression :=
  taggedNode json fun tag =>
    if tag = "literal" then
      some (.literal <$> required "value_source" json string <*> typeField "type" json)
    else if tag = "identifier" then some (.identifier <$> identifierFields json)
    else if tag = "field_access" then
      some (.fieldAccess <$> required "target" json (fun part => readExpression part.val)
        <*> required "name" json (fun part => readIdentifier part.val)
        <*> typeField "type" json)
    else if tag = "method_invocation" then
      some (.call <$> required "name" json string
        <*> defaulted "select" json none (nullable fun part => readExpression part.val)
        <*> defaulted "arguments" json [] (listOf fun part => readExpression part.val)
        <*> typeField "type" json)
    else if tag = "array_initializer" then
      some (.arrayInitializer <$>
        defaulted "elements" json [] (listOf fun part => readExpression part.val))
    else if tag = "assignment" then
      some (.assignment <$> required "variable" json (fun part => readIdentifier part.val)
        <*> required "value" json fun part => readExpression part.val)
    else none
termination_by sizeOf json
decreasing_by all_goals exact part.property

/-- An annotation. -/
def readAnnotationUse (json : Json) : Checked AnnotationUse :=
  fixedNode "annotation" json
    (AnnotationUse.mk <$> required "annotation_type" json (fun part => readClass part.val)
      <*> required "name" json string
      <*> defaulted "arguments" json none
        (nullable (listOf fun part => readExpression part.val)))

/-- A list of strings that may be left out. -/
def stringsField (name : String) (json : Json) : Checked (List String) :=
  defaulted name json [] (listOf string)

/-- The annotations of a declaration. -/
def annotationsField (json : Json) : Checked (List AnnotationUse) :=
  defaulted "leading_annotations" json [] (listOf fun part => readAnnotationUse part.val)

/-- The fields of a field declaration. -/
def fieldFields (json : Json) : Checked FieldDeclaration :=
  FieldDeclaration.mk <$> required "name" json string <*> typeField "type" json
    <*> stringsField "modifiers" json <*> annotationsField json
    <*> defaulted "initializer" json none (nullable fun part => readExpression part.val)

/-- The fields of a method declaration. -/
def methodFields (json : Json) : Checked MethodDeclaration :=
  MethodDeclaration.mk <$> required "name" json string <*> typeField "return_type" json
    <*> stringsField "modifiers" json <*> annotationsField json
    <*> stringsField "parameters" json
    <*> defaulted "body" json (some []) (nullable (listOf string))

/-- The fields of a class declaration but its body. -/
def headerFields (json : Json) : Checked ClassHeader :=
  ClassHeader.mk <$> required "name" json string
    <*> required "type" json (fun part => readClass part.val)
    <*> stringsField "modifiers" json <*> annotationsField json

/-- A member. -/
def readMember (json : Json) : Checked Member :=
  taggedNode json fun tag =>
    if tag = "field" then some (.field <$> fieldFields json)
    else if tag = "method" then some (.method <$> methodFields json)
    else if tag = "class_declaration" then
      some (.nested <$> headerFields json
        <*> defaulted "body" json [] (listOf fun part => readMember part.val))
    else none
termination_by sizeOf json
decreasing_by exact part.property

/-- A class declaration. -/
def readClassDeclaration (json : Json) : Checked ClassDeclaration :=
  fixedNode "class_declaration" json
    (ClassDeclaration.mk <$> headerFields json
      <*> defaulted "body" json [] (listOf fun part => readMember part.val))

/-- An import. -/
def readImport (json : Json) : Checked Import :=
  fixedNode "import" json
    (Import.mk <$> required "fqn" json string <*> defaulted "static" json false truth)

/-- A compilation unit. -/
def readUnit (json : Json) : Checked CompilationUnit :=
  fixedNode "compilation_unit" json
    (CompilationUnit.mk <$> required "source_path" json string
      <*> defaulted "package" json none (nullable string)
      <*> defaulted "imports" json [] (listOf fun part => readImport part.val)
      <*> defaulted "classes" json [] (listOf fun part => readClassDeclaration part.val))

/-- Reads a text as what `read` makes of JSON. -/
def parseAs {α : Type} (read : Json → Checked α) (text : String) : Checked α :=
  match Json.read? text with
  | some json => read json
  | none => .problem .invalidJson

/-- Reads the text of a document. -/
def parse (text : String) : Checked CompilationUnit := parseAs readUnit text

end Document

end TypedDefaults
