import TypedDefaults.Java.JavaType

/-!
# Expressions

The shapes that occur as annotation values and as initializers of synthesized
fields. An identifier carries the symbol it was resolved to, when it names a
field or variable, and the type of the expression it is; where it names a class
used as a qualifier the type is that class.
-/

namespace TypedDefaults.Java

/-- The resolved identity of a field or variable. The owner is unknown for locals and where the
front end could not tell. -/
structure Symbol where
  owner : Option ClassType
  name : String
  type : Option JavaType
  deriving DecidableEq, Repr, Inhabited

/-- The part of a symbol that identifies it: its owner and name. Its type is only a note. -/
def Symbol.identity (symbol : Symbol) : Symbol := { symbol with type := none }

/-- A bare name. -/
structure Identifier where
  name : String
  symbol : Option Symbol
  type : Option JavaType
  deriving DecidableEq, Repr, Inhabited

/-- An expression. A literal keeps its token exactly as written. -/
inductive Expression where
  | literal (token : String) (type : Option JavaType)
  | identifier (name : Identifier)
  | fieldAccess (target : Expression) (name : Identifier) (type : Option JavaType)
  | call (name : String) (receiver : Option Expression) (arguments : List Expression)
      (type : Option JavaType)
  | arrayInitializer (elements : List Expression)
  | assignment (target : Identifier) (value : Expression)
  deriving Inhabited

namespace Expression

mutual

/-- The two expressions are equal. -/
def same : Expression → Expression → Bool
  | literal token type, literal token' type' => token = token' && type = type'
  | identifier name, identifier name' => name = name'
  | fieldAccess target name type, fieldAccess target' name' type' =>
    same target target' && name = name' && type = type'
  | call name none arguments type, call name' none arguments' type' =>
    name = name' && sameAll arguments arguments' && type = type'
  | call name (some receiver) arguments type, call name' (some receiver') arguments' type' =>
    name = name' && same receiver receiver' && sameAll arguments arguments' && type = type'
  | arrayInitializer elements, arrayInitializer elements' => sameAll elements elements'
  | assignment target value, assignment target' value' => target = target' && same value value'
  | _, _ => false

/-- The two lists of expressions are equal. -/
def sameAll : List Expression → List Expression → Bool
  | [], [] => true
  | expression :: rest, other :: others => same expression other && sameAll rest others
  | _, _ => false

end

mutual

/-- The comparison of expressions is equality. -/
theorem same_iff :
    ∀ expression other : Expression, same expression other = true ↔ expression = other
  | literal _ _, other => by cases other <;> simp [same]
  | identifier _, other => by cases other <;> simp [same]
  | fieldAccess target _ _, other => by cases other <;> simp [same, same_iff target, and_assoc]
  | call _ none arguments _, other => by
    cases other with
    | call _ receiver _ _ => cases receiver <;> simp [same, sameAll_iff arguments, and_assoc]
    | _ => simp [same]
  | call _ (some receiver) arguments _, other => by
    cases other with
    | call _ receiver' _ _ =>
      cases receiver' <;> simp [same, same_iff receiver, sameAll_iff arguments, and_assoc]
    | _ => simp [same]
  | arrayInitializer elements, other => by cases other <;> simp [same, sameAll_iff elements]
  | assignment _ value, other => by cases other <;> simp [same, same_iff value]

/-- The comparison of lists of expressions is equality. -/
theorem sameAll_iff :
    ∀ expressions others : List Expression, sameAll expressions others = true ↔ expressions = others
  | [], others => by cases others <;> simp [sameAll]
  | expression :: rest, others => by
    cases others <;> simp [sameAll, same_iff expression, sameAll_iff rest]

end

instance : DecidableEq Expression := fun expression other =>
  decidable_of_iff _ (same_iff expression other)

/-- The type noted on an expression. Array initializers and assignments have none. -/
def type? : Expression → Option JavaType
  | literal _ type => type
  | identifier name => name.type
  | fieldAccess _ _ type => type
  | call _ _ _ type => type
  | arrayInitializer _ => none
  | assignment _ _ => none

/-- The class noted on an expression, if its type is a plain class. -/
def class? (expression : Expression) : Option ClassType := expression.type? >>= JavaType.class?

/-- The names of a qualified name as written, outermost first. Other expressions are no path. -/
def namePath? : Expression → Option (List String)
  | identifier name => some [name.name]
  | fieldAccess target name _ => (namePath? target).map fun path => path ++ [name.name]
  | _ => none

/-- The token of a string literal: it starts and ends with a double quote. -/
def isStringToken (token : String) : Bool :=
  match token.toList with
  | '"' :: second :: rest => (second :: rest).getLast? = some '"'
  | _ => false

end Expression

namespace ClassType

/-- The identifier that names a class by its simple name. -/
def nameExpression (type : ClassType) : Identifier := ⟨type.simpleName, none, some (.named type)⟩

/-- The reference to a class of a list of names, each enclosed by the names after it. -/
def referenceTo (name : String) : List String → Expression
  | [] => .identifier (nameExpression ⟨name, []⟩)
  | owner :: around =>
    let type : ClassType := ⟨name, owner :: around⟩
    .fieldAccess (referenceTo owner around) type.nameExpression (some (.named type))

/-- The expression that names a class from any place in its file: the simple names from the
outermost class inwards. -/
def reference (type : ClassType) : Expression := referenceTo type.qualifiedName type.enclosing

end ClassType

end TypedDefaults.Java
