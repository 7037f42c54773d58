import TypedDefaults.Java.Description
import TypedDefaults.Java.Source

/-!
# Printing in a role

A node of any class may be handed to the printer of types, expressions,
annotations, members or files. The printers of types, expressions and members
refuse a node of another class and show it in full; those of annotations and
files name the part that they miss.
-/

namespace TypedDefaults.Java

/-- A node of any class. Class types are types, identifiers expressions, and classes members. A type
may be unknown. -/
inductive Node where
  | type (node : Option JavaType)
  | symbol (node : Symbol)
  | expression (node : Expression)
  | annotationUse (node : AnnotationUse)
  | member (node : Member)
  | importEntry (node : Import)
  | unit (node : CompilationUnit)
  deriving Inhabited

/-- What a node is printed as. -/
inductive Role where
  | type
  | expression
  | annotationUse
  | member
  | unit
  deriving DecidableEq, Inhabited

/-- Why a node was not printed. -/
inductive RoleError where
  | unknownNode (role description : String)
  | lacks (nodeClass part : String)
  deriving DecidableEq, Inhabited

/-- The text of an error. -/
def RoleError.message : RoleError → String
  | unknownNode role description => "Unknown " ++ role ++ " node: " ++ description
  | lacks nodeClass part => "'" ++ nodeClass ++ "' object has no attribute '" ++ part ++ "'"

/-- What printing gives: the lines of a member, or a text. -/
inductive Printed where
  | text (text : String)
  | lines (lines : List String)
  deriving DecidableEq, Inhabited

namespace Node

/-- The description of a node. -/
def describe : Node → String
  | type node => describeType? node
  | symbol node => node.describe
  | expression node => node.describe
  | annotationUse node => node.describe
  | member node => node.describe
  | importEntry node => node.describe
  | unit node => node.describe

/-- The name of a node's class: its description up to the parenthesis. -/
def className : Node → String
  | type none => "NoneType"
  | node => String.ofList (node.describe.toList.takeWhile (· ≠ '('))

/-- Prints a node in a role, at a level of nesting if it is a member. -/
def printAs (role : Role) (depth : Nat) (node : Node) : Except RoleError Printed :=
  match role, node with
  | .type, .type node => .ok (.text (printInferred node))
  | .type, other => .error (.unknownNode "type" other.describe)
  | .expression, .expression node => .ok (.text node.print)
  | .expression, other => .error (.unknownNode "expression" other.describe)
  | .member, .member node => .ok (.lines (node.print depth))
  | .member, other => .error (.unknownNode "member" other.describe)
  | .annotationUse, .annotationUse node => .ok (.text node.print)
  | .annotationUse, .expression (.call name _ arguments _) =>
    .ok (.text (AnnotationUse.print ⟨.topLevel name, name, some arguments⟩))
  | .annotationUse, other => .error (.lacks other.className "arguments")
  | .unit, .unit node => .ok (.text node.print)
  | .unit, other => .error (.lacks other.className "package")

end Node

end TypedDefaults.Java
