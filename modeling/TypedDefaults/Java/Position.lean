import TypedDefaults.Java.Declaration

/-!
# Positions of classes

Walking a file yields every class declaration together with the declarations
around it, so that questions about visibility need no pointers from a class to
its surroundings. Rebuilding a file visits the same positions: nested classes
come before the class that holds them, and the visitor of a class is told its
position in the file as it was, and given the class with its nested classes
already rebuilt. A visitor answers with a replacement or leaves the class as it
is; a file in which everything was left is itself left.
-/

namespace TypedDefaults.Java

/-- A class declaration with the declarations around it, nearest first. -/
structure ClassPosition where
  declaration : ClassDeclaration
  enclosing : List ClassDeclaration
  deriving DecidableEq, Inhabited

namespace ClassPosition

/-- The class and the classes around it, nearest first. -/
def chain (position : ClassPosition) : List ClassDeclaration :=
  position.declaration :: position.enclosing

/-- The type of the class. -/
def type (position : ClassPosition) : ClassType := position.declaration.header.type

/-- The names of the classes from the outermost one inwards. -/
def path (position : ClassPosition) : List String :=
  position.chain.reverse.map fun declaration => declaration.header.name

end ClassPosition

mutual

/-- The class positions of a member that stands inside the given classes. -/
def Member.positions (enclosing : List ClassDeclaration) : Member → List ClassPosition
  | .field _ => []
  | .method _ => []
  | .nested header body =>
    ⟨⟨header, body⟩, enclosing⟩ :: Member.positionsAll (⟨header, body⟩ :: enclosing) body

/-- The class positions of members that stand inside the given classes. -/
def Member.positionsAll (enclosing : List ClassDeclaration) : List Member → List ClassPosition
  | [] => []
  | member :: rest => member.positions enclosing ++ Member.positionsAll enclosing rest

end

/-- The class itself and its nested classes, outer ones first. -/
def ClassDeclaration.positions (declaration : ClassDeclaration) : List ClassPosition :=
  ⟨declaration, []⟩ :: Member.positionsAll [declaration] declaration.body

/-- Every class of a file, outer ones first, otherwise in source order. -/
def CompilationUnit.positions (unit : CompilationUnit) : List ClassPosition :=
  unit.classes.flatMap ClassDeclaration.positions

/-- The names of the fields of a class. -/
def ClassDeclaration.declaredFields (declaration : ClassDeclaration) : List String :=
  declaration.body.filterMap Member.fieldName?

/-- The names of the fields and methods of a class. -/
def ClassDeclaration.declaredNames (declaration : ClassDeclaration) : List String :=
  declaration.body.filterMap Member.declaredName?

/-- The member names that can be written without qualifier at a position. -/
def ClassPosition.visibleNames (position : ClassPosition) : List String :=
  position.chain.flatMap ClassDeclaration.declaredNames

mutual

/-- The member names declared in a nested class and the classes inside it. -/
def Member.innerNames : Member → List String
  | .field _ => []
  | .method _ => []
  | .nested _ body => body.filterMap Member.declaredName? ++ Member.innerNamesAll body

/-- The member names declared in the classes nested among members. -/
def Member.innerNamesAll : List Member → List String
  | [] => []
  | member :: rest => member.innerNames ++ Member.innerNamesAll rest

end

/-- The member names declared in the classes inside a class, at any depth. -/
def ClassDeclaration.nestedNames (declaration : ClassDeclaration) : List String :=
  Member.innerNamesAll declaration.body

/-- Every annotation of a file: class by class, those of the class before those of its members. -/
def CompilationUnit.annotations (unit : CompilationUnit) : List AnnotationUse :=
  unit.positions.flatMap fun position =>
    position.declaration.header.annotations ++ position.declaration.body.flatMap Member.annotations

/-- A visitor is told a position of the file as it was and given the class as rebuilt so far. It
answers with a replacement, or with nothing to leave the class as given. -/
abbrev Visitor (m : Type → Type) := ClassPosition → ClassDeclaration → m (Option ClassDeclaration)

/-- The new list of parts: nothing when no part was replaced. -/
def replaceParts {α : Type} : List (α × Option α) → Option (List α)
  | [] => none
  | (part, replacement) :: rest =>
    match replacement, replaceParts rest with
    | none, none => none
    | none, some others => some (part :: others)
    | some new, others => some (new :: others.getD (rest.map Prod.fst))

section Rebuild

variable {m : Type → Type} [Monad m]

mutual

/-- Rebuilds the classes of a member: nested classes first, then the class itself. -/
def Member.rebuild (visit : Visitor m) (enclosing : List ClassDeclaration) :
    Member → m (Option Member)
  | .field _ => pure none
  | .method _ => pure none
  | .nested header body => do
    let replaced ← Member.rebuildAll visit (⟨header, body⟩ :: enclosing) body
    let current : ClassDeclaration := ⟨header, (replaceParts replaced).getD body⟩
    let visited ← visit ⟨⟨header, body⟩, enclosing⟩ current
    match visited, replaceParts replaced with
    | some new, _ => pure (some (.nested new.header new.body))
    | none, some _ => pure (some (.nested current.header current.body))
    | none, none => pure none

/-- Rebuilds the classes among members, from first to last. -/
def Member.rebuildAll (visit : Visitor m) (enclosing : List ClassDeclaration) :
    List Member → m (List (Member × Option Member))
  | [] => pure []
  | member :: rest => do
    let replacement ← member.rebuild visit enclosing
    let others ← Member.rebuildAll visit enclosing rest
    pure ((member, replacement) :: others)

end

/-- Rebuilds a class that stands alone: its nested classes first, then itself. -/
def ClassDeclaration.rebuild (visit : Visitor m) (declaration : ClassDeclaration) :
    m (Option ClassDeclaration) := do
  let replaced ← Member.rebuildAll visit [declaration] declaration.body
  let current : ClassDeclaration :=
    ⟨declaration.header, (replaceParts replaced).getD declaration.body⟩
  let visited ← visit ⟨declaration, []⟩ current
  match visited, replaceParts replaced with
  | some new, _ => pure (some new)
  | none, some _ => pure (some current)
  | none, none => pure none

/-- Rebuilds the classes of a list, from first to last. -/
def ClassDeclaration.rebuildAll (visit : Visitor m) :
    List ClassDeclaration → m (List (ClassDeclaration × Option ClassDeclaration))
  | [] => pure []
  | declaration :: rest => do
    let replacement ← declaration.rebuild visit
    let others ← ClassDeclaration.rebuildAll visit rest
    pure ((declaration, replacement) :: others)

/-- Rebuilds all classes of a file. -/
def CompilationUnit.rebuild (visit : Visitor m) (unit : CompilationUnit) :
    m (Option CompilationUnit) := do
  let replaced ← ClassDeclaration.rebuildAll visit unit.classes
  pure ((replaceParts replaced).map fun classes => { unit with classes })

end Rebuild

end TypedDefaults.Java
