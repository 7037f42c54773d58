import TypedDefaults.Proofs.Conservation
import TypedDefaults.Proofs.Reports
import TypedDefaults.Proofs.Returning
import TypedDefaults.Proofs.SharedPaths

/-!
# Output switches

Two switches of a configuration say what a run writes beside the relocated values:
whether it imports the value holder, and whether strings get companions. Neither
is read by the scan. The second phase reads the one where it makes the companion
of a string, and the other where it has counted companions. So two runs that
differ in the switches store the same entries, add the same fields in the same
places and count alike; what differs are companions of members with the type of
strings, and the import.
-/

namespace TypedDefaults

open Java Synthesis

/-- Three lists stand side by side, place by place in a relation. -/
inductive Aligned {α β γ : Type} (related : α → β → γ → Prop) :
    List α → List β → List γ → Prop where
  | nil : Aligned related [] [] []
  | cons (first : α) (second : β) (third : γ) (firsts : List α) (seconds : List β)
      (thirds : List γ) (head : related first second third)
      (tail : Aligned related firsts seconds thirds) :
      Aligned related (first :: firsts) (second :: seconds) (third :: thirds)

/-- One of the lists is the other with at most one further element, which is of a certain sort. -/
def ApartByOne {α : Type} (fits : α → Prop) (first second : List α) : Prop :=
  Inserted fits first second ∨ Inserted fits second first

/-- The annotations of a member with a declared type after two runs. They are the same, or the type
is that of strings and one of the runs has put the companion of a string among them. -/
def SwitchedUses (configuration : Configuration) (type : Option JavaType)
    (first second : List AnnotationUse) : Prop :=
  first = second ∨ (∃ string ∈ type, string.isString = true) ∧
    ApartByOne (fun use => ∃ value, companion configuration .passThroughString value = some use)
      first second

namespace Java

mutual

/-- A member, and what two runs make of it. Fields and methods agree but for their annotations,
nested classes but for their members. -/
inductive Member.Switched (configuration : Configuration) : Member → Member → Member → Prop where
  | field (declaration : FieldDeclaration) (first second : List AnnotationUse)
      (uses : SwitchedUses configuration declaration.type first second) :
      Member.Switched configuration (.field declaration)
        (.field { declaration with annotations := first })
        (.field { declaration with annotations := second })
  | method (declaration : MethodDeclaration) (first second : List AnnotationUse)
      (uses : SwitchedUses configuration declaration.returnType first second) :
      Member.Switched configuration (.method declaration)
        (.method { declaration with annotations := first })
        (.method { declaration with annotations := second })
  | nested (header : ClassHeader) (body first second : List Member)
      (inside : ClassDeclaration.SwitchedBody configuration ⟨header, body⟩ first second) :
      Member.Switched configuration (.nested header body) (.nested header first)
        (.nested header second)

/-- The body of a class after two runs: the same new fields stand in the same place among its
members. -/
inductive ClassDeclaration.SwitchedBody (configuration : Configuration) :
    ClassDeclaration → List Member → List Member → Prop where
  | extended (declaration : ClassDeclaration) (fields : List FieldDeclaration)
      (front back frontFirst backFirst frontSecond backSecond : List Member)
      (body : declaration.body = front ++ back) (place : FieldPlace front back)
      (new : declaration.NewFields fields)
      (before : Aligned (Member.Switched configuration) front frontFirst frontSecond)
      (behind : Aligned (Member.Switched configuration) back backFirst backSecond) :
      ClassDeclaration.SwitchedBody configuration declaration
        (frontFirst ++ (fields.map .field ++ backFirst))
        (frontSecond ++ (fields.map .field ++ backSecond))

end

/-- A class, and what two runs make of it. -/
structure ClassDeclaration.Switched (configuration : Configuration)
    (declaration first second : ClassDeclaration) : Prop where
  headerFirst : first.header = declaration.header
  headerSecond : second.header = declaration.header
  body : declaration.SwitchedBody configuration first.body second.body

end Java

/-- The reports of two runs on a file: they agree in everything but the members of string type and
the import of the value holder. -/
structure FileReport.Switched (configuration : Configuration) (unit : CompilationUnit)
    (first second : FileReport) : Prop where
  changed : first.changed = second.changed
  fieldsAdded : first.tally.fieldsAdded = second.tally.fieldsAdded
  relocated : first.tally.relocated = second.tally.relocated
  skipped : first.tally.skipped = second.tally.skipped
  errors : first.errors = second.errors
  sourcePath : first.sourcePath = second.sourcePath
  unitPath : first.unit.sourcePath = second.unit.sourcePath
  package : first.unit.package = second.unit.package
  imports : ApartByOne (fun new => new = ⟨configuration.valueHolder, false⟩)
    first.unit.imports second.unit.imports
  classes : Aligned (ClassDeclaration.Switched configuration) unit.classes first.unit.classes
    second.unit.classes

namespace Occurrence

variable (configuration : Configuration) (imports strings : Bool)

end Occurrence

namespace Occurrence

variable (configuration : Configuration) (imports strings : Bool) (store : Store)
  (found : Occurrence)

end Occurrence

namespace Relocation

variable (configuration : Configuration) (imports strings : Bool) (store : Store) (file : String)
  (position : ClassPosition) (member : Member)

end Relocation

namespace Apply

variable (configuration : Configuration) (imports strings : Bool) (units : List CompilationUnit)
  (unit : CompilationUnit)

end Apply

namespace Apply

variable {configuration : Configuration} {store : Store} {unit : CompilationUnit}

end Apply

namespace Apply

variable (configuration : Configuration) (imports strings : Bool) (units : List CompilationUnit)
  (unit : CompilationUnit)

end Apply

end TypedDefaults
