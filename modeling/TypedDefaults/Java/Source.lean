import TypedDefaults.Java.Declaration

/-!
# Source text

Trees are printed in a fixed layout of four blanks a level. Annotations stand
on lines of their own above their declaration. Neighbouring fields follow each
other directly; a blank line separates any other two members, and the package,
the imports and the classes of a file. The printed form of an expression is also
its identity when names are made from it.
-/

namespace TypedDefaults.Java

/-- The start of a line at a level of nesting. -/
def indentation (depth : Nat) : String := String.ofList (List.replicate (4 * depth) ' ')

mutual

/-- A type as written in source. -/
def JavaType.print : JavaType → String
  | .primitive keyword => keyword
  | .named type => type.canonicalName
  | .generic base arguments =>
    base.canonicalName ++ "<" ++ Text.join ", " (JavaType.printAll arguments) ++ ">"
  | .array element => element.print ++ "[]"

/-- Types as written in source. -/
def JavaType.printAll : List JavaType → List String
  | [] => []
  | type :: rest => type.print :: JavaType.printAll rest

end

/-- A type that may be unknown; the unknown one is left to inference. -/
def printInferred : Option JavaType → String
  | none => "var"
  | some type => type.print

mutual

/-- An expression as written in source. -/
def Expression.print : Expression → String
  | .literal token _ => token
  | .identifier name => name.name
  | .fieldAccess target name _ => target.print ++ "." ++ name.name
  | .call name none arguments _ =>
    name ++ "(" ++ Text.join ", " (Expression.printAll arguments) ++ ")"
  | .call name (some receiver) arguments _ =>
    receiver.print ++ "." ++ name ++ "(" ++ Text.join ", " (Expression.printAll arguments) ++ ")"
  | .arrayInitializer elements => "\x7b" ++ Text.join ", " (Expression.printAll elements) ++ "\x7d"
  | .assignment target value => target.name ++ " = " ++ value.print

/-- Expressions as written in source. -/
def Expression.printAll : List Expression → List String
  | [] => []
  | expression :: rest => expression.print :: Expression.printAll rest

end

/-- Printing a list of expressions prints each of them. -/
theorem Expression.printAll_eq_map (expressions : List Expression) :
    Expression.printAll expressions = expressions.map Expression.print := by
  induction expressions with
  | nil => simp [Expression.printAll]
  | cons expression rest hypothesis => simp [Expression.printAll, hypothesis]

/-- An annotation as written in source. -/
def AnnotationUse.print (use : AnnotationUse) : String :=
  match use.arguments with
  | none => "@" ++ use.name
  | some arguments =>
    "@" ++ use.name ++ "(" ++ Text.join ", " (arguments.map Expression.print) ++ ")"

/-- The modifiers in front of a declaration. -/
def printModifiers (modifiers : List String) : String :=
  if modifiers.isEmpty then "" else Text.join " " modifiers ++ " "

/-- One line for each annotation. -/
def printAnnotations (depth : Nat) (annotations : List AnnotationUse) : List String :=
  annotations.map fun use => indentation depth ++ use.print

/-- The lines of a field. -/
def FieldDeclaration.print (depth : Nat) (declaration : FieldDeclaration) : List String :=
  let initializer := match declaration.initializer with
    | none => ""
    | some value => " = " ++ value.print
  printAnnotations depth declaration.annotations ++
    [indentation depth ++ printModifiers declaration.modifiers ++ printInferred declaration.type ++
      " " ++ declaration.name ++ initializer ++ ";"]

/-- The lines of a method. -/
def MethodDeclaration.print (depth : Nat) (declaration : MethodDeclaration) : List String :=
  let signature := indentation depth ++ printModifiers declaration.modifiers ++
    printInferred declaration.returnType ++ " " ++ declaration.name ++
    "(" ++ Text.join ", " declaration.parameters ++ ")"
  printAnnotations depth declaration.annotations ++
    match declaration.body with
    | none => [signature ++ ";"]
    | some statements =>
      (signature ++ " \x7b") :: statements.map (indentation (depth + 1) ++ ·) ++
        [indentation depth ++ "\x7d"]

/-- The first lines of a class: its annotations and its opening. -/
def ClassHeader.print (depth : Nat) (header : ClassHeader) : List String :=
  printAnnotations depth header.annotations ++
    [indentation depth ++ printModifiers header.modifiers ++ "class " ++ header.name ++ " \x7b"]

mutual

/-- The lines of a member. -/
def Member.print (depth : Nat) : Member → List String
  | .field declaration => declaration.print depth
  | .method declaration => declaration.print depth
  | .nested header body =>
    header.print depth ++ Member.printAll (depth + 1) true true body ++
      [indentation depth ++ "\x7d"]

/-- The lines of members. `first` says that none stands before them, `afterField` that the one
before them is a field. -/
def Member.printAll (depth : Nat) (first afterField : Bool) : List Member → List String
  | [] => []
  | member :: rest =>
    let gap := if first || (afterField && member.isField) then [] else [""]
    gap ++ member.print depth ++ Member.printAll depth false member.isField rest

end

/-- The class as a member of another one. -/
def ClassDeclaration.toMember (declaration : ClassDeclaration) : Member :=
  .nested declaration.header declaration.body

/-- The lines of a class. -/
def ClassDeclaration.print (depth : Nat) (declaration : ClassDeclaration) : List String :=
  declaration.toMember.print depth

/-- The line of an import. -/
def Import.print (entry : Import) : String :=
  "import " ++ (if entry.isStatic then "static " else "") ++ entry.name ++ ";"

/-- The text of a file, ended by a line feed. -/
def CompilationUnit.print (unit : CompilationUnit) : String :=
  let package := match unit.package with
    | none => []
    | some name => if name.isEmpty then [] else [["package " ++ name ++ ";"]]
  let imports := if unit.imports.isEmpty then [] else [unit.imports.map Import.print]
  let classes := unit.classes.map (ClassDeclaration.print 0)
  Text.join "\n\n" ((package ++ imports ++ classes).map (Text.join "\n")) ++ "\n"

end TypedDefaults.Java
