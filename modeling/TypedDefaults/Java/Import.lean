import TypedDefaults.Java.Position

/-!
# Imports and use of types

An import covers a class when it names the class or all classes of its package.
A new import goes in front of the first ordinary import that sorts after it, or
else behind the last ordinary one, so that sorted imports stay sorted and static
imports stay behind the ordinary ones.
-/

namespace TypedDefaults.Java

/-- An ordinary import of the class or of all classes of its package. -/
def Import.covers (qualifiedName : String) (entry : Import) : Bool :=
  !entry.isStatic && (entry.name = qualifiedName || entry.name = ClassType.wildcard qualifiedName)

/-- Some import covers the class. -/
def covered (qualifiedName : String) (imports : List Import) : Bool :=
  imports.any (Import.covers qualifiedName)

/-- An ordinary import that sorts after a name. -/
def Import.sortsAfter (qualifiedName : String) (entry : Import) : Bool :=
  !entry.isStatic && decide (qualifiedName < entry.name)

/-- Puts a new import behind the last ordinary import, or first if there is none. -/
def insertBehindOrdinary (new : Import) : List Import → List Import
  | [] => [new]
  | entry :: rest =>
    if (entry :: rest).any (fun other => !other.isStatic) then
      entry :: insertBehindOrdinary new rest
    else new :: entry :: rest

/-- Puts a new import at its place in a list that does not cover it. -/
def insertImport (new : Import) (imports : List Import) : List Import :=
  if imports.any (Import.sortsAfter new.name) then
    imports.takeWhile (fun entry => !entry.sortsAfter new.name) ++
      new :: imports.dropWhile (fun entry => !entry.sortsAfter new.name)
  else insertBehindOrdinary new imports

/-- Imports a class unless it is covered already. -/
def ensureImport (qualifiedName : String) (imports : List Import) : List Import :=
  if covered qualifiedName imports then imports
  else insertImport ⟨qualifiedName, false⟩ imports

/-- A file uses a class when it imports it, in whatever way, or is annotated with it. -/
def CompilationUnit.uses (qualifiedName : String) (unit : CompilationUnit) : Bool :=
  unit.imports.any (fun entry => entry.name = qualifiedName || entry.covers qualifiedName) ||
    unit.annotations.any (fun use => use.type.qualifiedName = qualifiedName)

/-- Adding an import leaves the class covered. -/
theorem covered_ensureImport (qualifiedName : String) (imports : List Import) :
    covered qualifiedName (ensureImport qualifiedName imports) = true := by
  have covers : Import.covers qualifiedName ⟨qualifiedName, false⟩ = true := by simp [Import.covers]
  unfold ensureImport
  split
  · assumption
  · unfold insertImport
    split
    · simp [covered, covers]
    · induction imports with
      | nil => simp [insertBehindOrdinary, covered, covers]
      | cons entry rest hypothesis =>
        unfold insertBehindOrdinary
        split
        · have later := hypothesis (by simp_all [covered]) (by simp_all)
          simp_all [covered]
        · simp [covered, covers]

end TypedDefaults.Java
