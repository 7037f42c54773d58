import TypedDefaults.Store
import TypedDefaults.Work

/-!
# Synthesizing fields

The entries of a file name the classes that get their fields. A class gets the
fields that it does not declare yet, in the order of their names, behind its
last field, or first where it declares none.
-/

namespace TypedDefaults

open Java

namespace Entry

/-- The anchor as the field's initializer refers to it. -/
def anchorIn (imports : List Import) (entry : Entry) : Except FieldError Expression :=
  match entry.context with
  | .resolvedLocally => .ok entry.anchor
  | .requiresScopedTemplate =>
    match requalify imports entry.anchor with
    | .error unresolved => .error (.unresolvedAnchor unresolved)
    | .ok requalified => .ok (requalified.getD entry.anchor)

/-- The field of an entry, in a file with the given imports. -/
def field (imports : List Import) (entry : Entry) : Except FieldError FieldDeclaration :=
  match entry.template with
  | none => .error (.entryWithoutTemplate entry.fieldName)
  | some template =>
    match entry.anchorIn imports with
    | .error error => .error error
    | .ok anchor => template.fill anchor

end Entry

namespace Synthesis

/-- The entries whose fields a class lacks, by field name. -/
def due (store : Store) (file : String) (declaration : ClassDeclaration) : List Entry :=
  (store.entriesFor file declaration.header.type).filter fun entry =>
    !declaration.declaredNames.contains entry.fieldName

/-- Puts fields behind the last field of a body, or first where there is none. -/
def insertFields (fields : List FieldDeclaration) : List Member → List Member
  | [] => fields.map .field
  | member :: rest =>
    if (member :: rest).any Member.isField then member :: insertFields fields rest
    else fields.map .field ++ member :: rest

/-- Makes the field of an entry. -/
def make {σ : Type} (imports : List Import) (entry : Entry) :
    Work Action σ FieldError FieldDeclaration := do
  let field ← Work.ofExcept (entry.field imports)
  Work.note (.transformed "FieldDeclaration" "" (Text.join "\n" ((Member.field field).print 0)))
  pure field

/-- Makes the fields that a class lacks. -/
def fields {σ : Type} (store : Store) (imports : List Import) (file : String)
    (declaration : ClassDeclaration) : Work Action σ FieldError (List FieldDeclaration) :=
  Work.forEach (make imports) (due store file declaration)

end Synthesis

end TypedDefaults
