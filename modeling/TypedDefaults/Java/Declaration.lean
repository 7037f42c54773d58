import TypedDefaults.Java.Expression

/-!
# Declarations

Annotations, members, classes and compilation units. A class declaration is a
header and a body; the body holds members in source order, nested classes among
them. Method parameters and bodies are opaque source text.
-/

namespace TypedDefaults.Java

/-- A leading annotation, with its type as written. Arguments are absent where no parentheses are
written. -/
structure AnnotationUse where
  type : ClassType
  name : String
  arguments : Option (List Expression)
  deriving DecidableEq, Inhabited

/-- A declaration of one field. -/
structure FieldDeclaration where
  name : String
  type : Option JavaType
  modifiers : List String
  annotations : List AnnotationUse
  initializer : Option Expression
  deriving DecidableEq, Inhabited

/-- A declaration of a method. The body is absent for abstract methods. -/
structure MethodDeclaration where
  name : String
  returnType : Option JavaType
  modifiers : List String
  annotations : List AnnotationUse
  parameters : List String
  body : Option (List String)
  deriving DecidableEq, Inhabited

/-- Everything of a class declaration but its members. -/
structure ClassHeader where
  name : String
  type : ClassType
  modifiers : List String
  annotations : List AnnotationUse
  deriving DecidableEq, Inhabited

/-- A member of a class. -/
inductive Member where
  | field (declaration : FieldDeclaration)
  | method (declaration : MethodDeclaration)
  | nested (header : ClassHeader) (body : List Member)
  deriving Inhabited

namespace Member

mutual

/-- The two members are equal. -/
def same : Member → Member → Bool
  | field declaration, field other => declaration = other
  | method declaration, method other => declaration = other
  | nested header body, nested other others => header = other && sameAll body others
  | _, _ => false

/-- The two lists of members are equal. -/
def sameAll : List Member → List Member → Bool
  | [], [] => true
  | member :: rest, other :: others => same member other && sameAll rest others
  | _, _ => false

end

mutual

/-- The comparison of members is equality. -/
theorem same_iff : ∀ member other : Member, same member other = true ↔ member = other
  | field _, other => by cases other <;> simp [same]
  | method _, other => by cases other <;> simp [same]
  | nested _ body, other => by cases other <;> simp [same, sameAll_iff body]

/-- The comparison of lists of members is equality. -/
theorem sameAll_iff :
    ∀ members others : List Member, sameAll members others = true ↔ members = others
  | [], others => by cases others <;> simp [sameAll]
  | member :: rest, others => by
    cases others <;> simp [sameAll, same_iff member, sameAll_iff rest]

end

instance : DecidableEq Member := fun member other => decidable_of_iff _ (same_iff member other)

/-- The name that a field or method declares. Nested classes declare no member name. -/
def declaredName? : Member → Option String
  | field declaration => some declaration.name
  | method declaration => some declaration.name
  | nested _ _ => none

/-- The name of a field. -/
def fieldName? : Member → Option String
  | field declaration => some declaration.name
  | _ => none

/-- The member is a field. -/
def isField : Member → Bool
  | field _ => true
  | _ => false

/-- The annotations in front of a field or method. Those of nested classes are not a member's. -/
def annotations : Member → List AnnotationUse
  | field declaration => declaration.annotations
  | method declaration => declaration.annotations
  | nested _ _ => []

/-- The member with other annotations; nested classes stay as they are. -/
def withAnnotations (annotations : List AnnotationUse) : Member → Member
  | field declaration => field { declaration with annotations }
  | method declaration => method { declaration with annotations }
  | nested header body => nested header body

/-- The declared type of a field or the return type of a method. -/
def declaredType : Member → Option JavaType
  | field declaration => declaration.type
  | method declaration => declaration.returnType
  | nested _ _ => none

end Member

/-- A class declaration. -/
structure ClassDeclaration where
  header : ClassHeader
  body : List Member
  deriving DecidableEq, Inhabited

/-- An import of a class, of all classes of a package, or of a static member. -/
structure Import where
  name : String
  isStatic : Bool
  deriving DecidableEq, Repr, Inhabited

/-- One source file. The path is the key under which its entries are stored. -/
structure CompilationUnit where
  sourcePath : String
  package : Option String
  imports : List Import
  classes : List ClassDeclaration
  deriving DecidableEq, Inhabited

end TypedDefaults.Java
