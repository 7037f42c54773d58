import TypedDefaults.FieldName
import TypedDefaults.Java.Import
import TypedDefaults.Occurrence
import TypedDefaults.Work

/-!
# Scanning

The first phase of a run looks at every occurrence of every file and stores an
entry for each value that needs a field. The first occurrence under a key
decides the name of the field, its template and the class that gets it; later
ones find the entry there.
-/

namespace TypedDefaults

open Java

/-- The files that a run touches: all of them, or those that use the attribute holder. -/
def Configuration.touches (configuration : Configuration) (unit : CompilationUnit) : Bool :=
  !configuration.requireHolderUsage || unit.uses configuration.attributeHolder

/-- The entries stored so far and the names given out so far. -/
structure ScanState where
  store : Store
  names : NameRegistry
  deriving DecidableEq, Inhabited

namespace ScanState

/-- The state before any occurrence, over entries of earlier scans. -/
def starting (store : Store) : ScanState := ⟨store, .empty⟩

/-- What the name of a field for an anchor starts with. Literals are numbered by the literals stored
for their file so far. -/
def baseFor (state : ScanState) (file : String) : Anchor → String
  | .literal _ _ => FieldName.numberedBase (state.store.countLiterals file)
  | anchor => FieldName.baseOf anchor.text

/-- The names that a field of a class must not have: those that it would hide, and those by which it
would be hidden in a class inside. -/
def takenAt (position : ClassPosition) : List String :=
  position.visibleNames ++ position.declaration.nestedNames

/-- The entry for an anchor, and the names given out with the one of its field. -/
def entryFor (state : ScanState) (occurrence : Occurrence) (kind : Kind) (anchor : Anchor) :
    Entry × NameRegistry :=
  let (name, names) := state.names.give occurrence.file (state.baseFor occurrence.file anchor)
    (FieldName.ending kind.storage) (takenAt occurrence.position)
  ({ fieldName := name
     kind := kind
     template := FieldTemplate.ofKind? name kind.storage
     context := anchor.contextIn (some occurrence.scope)
     anchor := anchor.expression
     scope := occurrence.scope },
   names)

/-- The note of an entry found or stored under a key. -/
def entryNote (key : Key) (entry : Entry) (reused : Bool) : Note :=
  .entry key.describe entry.fieldName ((entry.template.map FieldTemplate.text).getD "") reused

/-- Looks for the entry under the key of an occurrence, and stores one where there is none. -/
def record (state : ScanState) (occurrence : Occurrence) (kind : Kind) (key : Key)
    (anchor : Anchor) : ScanState × Note :=
  match state.store.get? key with
  | some entry => (state, entryNote key entry true)
  | none =>
    let (entry, names) := state.entryFor occurrence kind anchor
    (⟨state.store.insert key entry, names⟩, entryNote key entry false)

/-- What an analysed occurrence does to the state, and the notes that it leaves. -/
def take (state : ScanState) (occurrence : Occurrence) (analysis : Analysis) :
    ScanState × List Note :=
  match analysis.outcome with
  | .skipped reason => (state, [.skipped occurrence.location reason.word ""])
  | .passedThrough => (state, [])
  | .inPlace _ => (state, [])
  | .keyed key anchor =>
    let (after, note) := state.record occurrence analysis.kind key anchor
    (after, [note])

end ScanState

namespace Scan

/-- Scans one occurrence. -/
def occurrence (configuration : Configuration) (found : Occurrence) :
    Work Action ScanState OversizedNumeral Analysis := do
  let analysis ← Work.ofExcept (found.analyse configuration)
  let state ← Work.state
  let (after, notes) := state.take found analysis
  Work.modify fun _ => after
  Work.tell (notes.map .note)
  pure analysis

/-- Scans the occurrences of a file. -/
def file (configuration : Configuration) (unit : CompilationUnit) :
    Work Action ScanState OversizedNumeral (List Analysis) :=
  Work.forEach (occurrence configuration) (Occurrence.ofUnit configuration unit)

/-- Scans a file in a phase of its own, if the run touches it. -/
def touched (configuration : Configuration) (unit : CompilationUnit) :
    Work Action ScanState OversizedNumeral Unit :=
  if configuration.touches unit then
    Work.inPhase ("Scan " ++ unit.sourcePath) "" do
      let _ ← file configuration unit
      pure ()
  else pure ()

/-- What phases over whole batches note of their size. -/
def batchDetail (units : List CompilationUnit) : String := toString units.length ++ " units"

/-- Scans a batch of files, in order. -/
def batch (configuration : Configuration) (units : List CompilationUnit) :
    Work Action ScanState OversizedNumeral Unit :=
  Work.inPhase "Scan" (batchDetail units) do
    let _ ← Work.forEach (touched configuration) units
    pure ()

end Scan

end TypedDefaults
