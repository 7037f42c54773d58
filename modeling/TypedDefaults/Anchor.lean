import TypedDefaults.Java.Import
import TypedDefaults.Java.Source

/-!
# Anchors

The expression assigned to the migrated attribute anchors the value: a literal,
a bare name with a known symbol, or a qualified name with a known symbol. Other
expressions are no anchors. A field synthesized from an anchor may refer to it
as written when the symbol is declared in the class that gets the field or
around it. Otherwise a qualified name is written again from the outermost
class, unless the qualifier as written already holds everywhere in the file:
spelled in full, spelled from the outermost class, or starting at an imported
one.
-/

namespace TypedDefaults

open Java

/-- An expression that anchors a value. -/
inductive Anchor where
  | literal (token : String) (type : Option JavaType)
  | localSymbol (name : Identifier) (symbol : Symbol)
  | qualified (target : Expression) (name : Identifier) (type : Option JavaType) (symbol : Symbol)
  deriving DecidableEq, Inhabited

/-- Whether an initializer may refer to its anchor as written. -/
inductive Context where
  | resolvedLocally
  | requiresScopedTemplate
  deriving DecidableEq, Repr, Inhabited

/-- The word for a context. -/
def Context.word : Context → String
  | resolvedLocally => "resolved_locally"
  | requiresScopedTemplate => "requires_scoped_template"

namespace Anchor

/-- The anchor that an expression is. -/
def ofExpression? : Expression → Option Anchor
  | .literal token type => some (literal token type)
  | .identifier name => name.symbol.map (localSymbol name)
  | .fieldAccess target name type => name.symbol.map (qualified target name type)
  | _ => none

/-- The expression of an anchor. -/
def expression : Anchor → Expression
  | literal token type => .literal token type
  | localSymbol name _ => .identifier name
  | qualified target name type _ => .fieldAccess target name type

/-- The symbol of an anchor that has one. -/
def symbol? : Anchor → Option Symbol
  | literal _ _ => none
  | localSymbol _ symbol => some symbol
  | qualified _ _ _ symbol => some symbol

/-- The class that declares a qualified symbol: its owner, or the class of the qualifier where the
owner is unknown. -/
def ownerOf (symbol : Symbol) (target : Expression) : Option ClassType :=
  match symbol.owner with
  | some owner => some owner
  | none => target.class?

/-- The class that declares the symbol of an anchor. -/
def declaringScope? : Anchor → Option ClassType
  | literal _ _ => none
  | localSymbol _ symbol => symbol.owner
  | qualified target _ _ symbol => ownerOf symbol target

/-- The anchor as written. -/
def text (anchor : Anchor) : String := anchor.expression.print

/-- How initializers in a class may refer to an anchor. A literal can be written anywhere. -/
def contextIn (scope : Option ClassType) : Anchor → Context
  | literal _ _ => .resolvedLocally
  | anchor =>
    if ClassType.isSameOrEnclosing? anchor.declaringScope? scope = some true then .resolvedLocally
    else .requiresScopedTemplate

/-- An anchor is made from its own expression. -/
theorem expression_of_ofExpression? {expression : Expression} {anchor : Anchor}
    (found : ofExpression? expression = some anchor) : anchor.expression = expression := by
  cases expression with
  | literal token type =>
    simp only [ofExpression?, Option.some.injEq] at found; subst found; rfl
  | identifier name =>
    obtain ⟨symbol, _, rfl⟩ := Option.map_eq_some_iff.1 found; rfl
  | fieldAccess target name type =>
    obtain ⟨symbol, _, rfl⟩ := Option.map_eq_some_iff.1 found; rfl
  | _ => simp [ofExpression?] at found

end Anchor

/-- A written qualifier names a class from anywhere in a file with the given imports. -/
def namesEverywhere (imports : List Import) (owner : ClassType) (written : List String) : Bool :=
  if Text.join "." written = owner.qualifiedName then true
  else
    let inner := owner.chain.take written.length
    written = inner.reverse.map ClassType.simpleName &&
      match inner.getLast? with
      | some head => head.enclosing.isEmpty || covered head.qualifiedName imports
      | none => false

/-- The qualifier of a field access names a class from anywhere. -/
def holdsEverywhere (imports : List Import) (owner : ClassType) (target : Expression) : Bool :=
  match target.namePath? with
  | some written => namesEverywhere imports owner written
  | none => false

/-- A qualified anchor whose symbol is not known. -/
structure UnresolvedAnchor where
  text : String
  deriving DecidableEq, Repr, Inhabited

/-- The text of the complaint about an anchor without symbol. -/
def UnresolvedAnchor.message (anchor : UnresolvedAnchor) : String :=
  "Cannot re-qualify unresolved anchor '" ++ anchor.text ++ "'"

/-- The expression that stands for an anchor from anywhere in a file: nothing where the expression
can stay as it is. -/
def requalify (imports : List Import) : Expression → Except UnresolvedAnchor (Option Expression)
  | .fieldAccess target name type =>
    match name.symbol with
    | none => .error ⟨(Expression.fieldAccess target name type).print⟩
    | some symbol =>
      match Anchor.ownerOf symbol target with
      | none => .ok none
      | some owner =>
        if holdsEverywhere imports owner target then .ok none
        else .ok (some (.fieldAccess owner.reference name type))
  | _ => .ok none

end TypedDefaults
