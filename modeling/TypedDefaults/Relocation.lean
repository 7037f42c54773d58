import TypedDefaults.Holder
import TypedDefaults.Occurrence
import TypedDefaults.Work

/-!
# Relocating values

The second phase takes the migrated attribute out of the holder annotation and
puts a companion annotation beside it, whose only argument is the typed value.
Companions stand in front of the first annotation whose written name sorts after
theirs, and none is added where the member already has an annotation of its
type. Skipped occurrences stay as written.
-/

namespace TypedDefaults

open Java

/-- What has been done to a file so far. -/
structure Tally where
  fieldsAdded : Nat
  relocated : Nat
  companions : Nat
  skipped : Nat
  deriving DecidableEq, Repr, Inhabited

/-- Nothing done. -/
def Tally.zero : Tally := ⟨0, 0, 0, 0⟩

/-- The annotation without its argument at an index. Absent arguments become an empty list. -/
def Java.AnnotationUse.withoutArgument (use : AnnotationUse) (index : Nat) : AnnotationUse :=
  { use with arguments := some ((use.arguments.getD []).eraseIdx index) }

/-- Puts an annotation in front of the first one whose written name sorts after its own. -/
def insertUse (new : AnnotationUse) : List AnnotationUse → List AnnotationUse
  | [] => [new]
  | use :: rest =>
    if new.name < use.name then new :: use :: rest
    else use :: insertUse new rest

/-- The companion for values of a kind. -/
def companion (configuration : Configuration) (kind : Kind) (value : Expression) :
    Option AnnotationUse :=
  (Holder.name? kind).map fun holder =>
    { type := .within (configuration.valueHolder ++ "." ++ holder)
        (some (.topLevel configuration.valueHolder))
      name := configuration.valueHolderName ++ "." ++ holder
      arguments := some [value] }

/-- What is due for an occurrence in the second phase. -/
inductive Due where
  | nothing
  | missingEntry
  | relocate (value : Option Expression)
  deriving DecidableEq, Inhabited

/-- What is due for an analysed occurrence: the value for its companion, if it gets one. -/
def Due.ofAnalysis (configuration : Configuration) (store : Store) (occurrence : Occurrence)
    (analysis : Analysis) : Due :=
  match analysis.outcome with
  | .skipped _ => nothing
  | .passedThrough =>
    relocate (if configuration.emitStringHolder then some occurrence.value else none)
  | .inPlace value => relocate (some value)
  | .keyed key _ =>
    match store.get? key with
    | none => missingEntry
    | some entry => relocate (some (entry.reference (some occurrence.scope)))

namespace Relocation

/-- A member's annotations as changed so far, and the companions that are due. -/
structure Progress where
  annotations : List AnnotationUse
  companions : List AnnotationUse
  changed : Bool
  deriving DecidableEq, Inhabited

/-- The progress once the attribute of an occurrence is taken out. -/
def Progress.strip (progress : Progress) (configuration : Configuration) (occurrence : Occurrence)
    (kind : Kind) (value : Option Expression) : Progress :=
  { annotations := progress.annotations.set occurrence.annotationIndex
      (occurrence.holderUse.withoutArgument occurrence.attributeIndex)
    companions := progress.companions ++ (value >>= companion configuration kind).toList
    changed := true }

/-- Relocates the value of one occurrence. -/
def occurrence (configuration : Configuration) (store : Store) (found : Occurrence)
    (progress : Progress) : Work Action Tally OversizedNumeral Progress := do
  let analysis ← Work.ofExcept (found.analyse configuration)
  match Due.ofAnalysis configuration store found analysis with
  | .nothing =>
    Work.modify fun tally => { tally with skipped := tally.skipped + 1 }
    pure progress
  | .missingEntry =>
    Work.note (.warned ("No accumulator entry for '" ++ found.location ++ "'"))
    Work.modify fun tally => { tally with skipped := tally.skipped + 1 }
    pure progress
  | .relocate value =>
    Work.note (.transformed "Annotation" found.holderUse.print
      (found.holderUse.withoutArgument found.attributeIndex).print)
    Work.modify fun tally => { tally with relocated := tally.relocated + 1 }
    pure (progress.strip configuration found analysis.kind value)

/-- Relocates the values of occurrences of one member, from first to last. -/
def occurrences (configuration : Configuration) (store : Store) :
    List Occurrence → Progress → Work Action Tally OversizedNumeral Progress
  | [], progress => pure progress
  | found :: rest, progress => do
    let after ← occurrence configuration store found progress
    occurrences configuration store rest after

/-- Adds companions to annotations, those whose type is there already apart. -/
def addCompanions : List AnnotationUse → List AnnotationUse → Work Action Tally OversizedNumeral
    (List AnnotationUse)
  | [], annotations => pure annotations
  | new :: rest, annotations =>
    if annotations.any fun use => use.type.qualifiedName = new.type.qualifiedName then
      addCompanions rest annotations
    else do
      Work.note (.transformed "Annotation" "" new.print)
      Work.modify fun tally => { tally with companions := tally.companions + 1 }
      addCompanions rest (insertUse new annotations)

/-- Relocates the values of a member. Nothing means that the member stays as it is. -/
def member (configuration : Configuration) (store : Store) (file : String)
    (position : ClassPosition) (given : Member) :
    Work Action Tally OversizedNumeral (Option Member) := do
  let found := Occurrence.ofMember configuration file position given
  let progress ← occurrences configuration store found ⟨given.annotations, [], false⟩
  let annotations ← addCompanions progress.companions progress.annotations
  pure (if progress.changed then some (given.withAnnotations annotations) else none)

/-- Relocates the values of the members of a class, nested classes apart. Each member comes with
what replaces it. -/
def members (configuration : Configuration) (store : Store) (file : String)
    (position : ClassPosition) (body : List Member) :
    Work Action Tally OversizedNumeral (List (Member × Option Member)) :=
  Work.forEach (fun given => do
    let replacement ← member configuration store file position given
    pure (given, replacement)) body

/-- Relocates the values in a class body, nested classes apart. Nothing means that it stays as it
is. -/
def body (configuration : Configuration) (store : Store) (file : String)
    (position : ClassPosition) (given : List Member) :
    Work Action Tally OversizedNumeral (Option (List Member)) := do
  let replaced ← members configuration store file position given
  pure (replaceParts replaced)

end Relocation

end TypedDefaults
