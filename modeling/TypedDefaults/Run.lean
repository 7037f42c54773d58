import TypedDefaults.Relocation
import TypedDefaults.Scan
import TypedDefaults.Synthesis

/-!
# Whole runs

A run scans all files before it changes any, so that entries are complete when
the first reference to one is written. Changing a file adds fields class by
class, nested classes first, and imports the value holder where companions were
added. A file with a field that cannot be made is left as it is, and the
failure is reported; other files go on. A numeral with too many digits ends the
whole run.
-/

namespace TypedDefaults

open Java

/-- What became of a file. The failure is the one for which the file was left as it is. -/
structure FileReport where
  sourcePath : String
  unit : CompilationUnit
  changed : Bool
  tally : Tally
  failure : Option FieldError
  deriving DecidableEq, Inhabited

namespace FileReport

/-- A file that was not touched. -/
def untouched (unit : CompilationUnit) : FileReport := ⟨unit.sourcePath, unit, false, .zero, none⟩

/-- A file left as it is because of a failure. -/
def left (unit : CompilationUnit) (failure : FieldError) : FileReport :=
  { untouched unit with failure := some failure }

/-- Nothing failed. -/
def success (result : FileReport) : Bool := result.failure.isNone

/-- The texts of the failures of a file. -/
def errors (result : FileReport) : List String :=
  (result.failure.map FieldError.message).toList

end FileReport

/-- Why the work on a file was given up: a field could not be made, or a numeral not be read. -/
inductive ApplyFailure where
  | template (error : FieldError)
  | oversized (numeral : OversizedNumeral)
  deriving DecidableEq, Repr, Inhabited

namespace Apply

/-- The work on one class: fields first, then the annotations of its members. -/
def visit (configuration : Configuration) (store : Store) (unit : CompilationUnit) :
    Visitor (Work Action Tally ApplyFailure) := fun position current => do
  let fields ← (Synthesis.fields store unit.imports unit.sourcePath current).mapFailure .template
  Work.modify fun tally => { tally with fieldsAdded := tally.fieldsAdded + fields.length }
  let body := Synthesis.insertFields fields current.body
  let changed ←
    (Relocation.body configuration store unit.sourcePath position body).mapFailure .oversized
  match changed with
  | some body => pure (some { current with body })
  | none => pure (if fields.isEmpty then none else some { current with body })

/-- The imports of a file, with that of the value holder where companions were added. Nothing means
that they stay as they are. -/
def newImports (configuration : Configuration) (tally : Tally) (imports : List Import) :
    Option (List Import) :=
  if tally.companions = 0 || !configuration.addImports then none
  else
    let extended := ensureImport configuration.valueHolder imports
    if extended = imports then none else some extended

/-- Changes a file. Nothing means that it stays as it is. -/
def change (configuration : Configuration) (store : Store) (unit : CompilationUnit) :
    Work Action Tally ApplyFailure (Option CompilationUnit) := do
  let rebuilt ← unit.rebuild (visit configuration store unit)
  let tally ← Work.state
  match newImports configuration tally unit.imports with
  | none => pure rebuilt
  | some imports =>
    Work.note (.imported configuration.valueHolder unit.sourcePath)
    pure (some { rebuilt.getD unit with imports })

/-- What is made known when a file is left as it is. -/
def failureActions (file : String) (failure : FieldError) : List Action :=
  [.note (.warned ("Template failure in " ++ file ++ ": " ++ failure.message)),
   .send ⟨.warning, "Leaving " ++ Message.path file ++ " unmodified: " ++ failure.message⟩]

/-- The work on a file from a clean tally: its result, or a numeral that could not be read. -/
def outcome (configuration : Configuration) (store : Store) (unit : CompilationUnit) :
    Work Action Unit OversizedNumeral FileReport := fun _ =>
  match change configuration store unit .zero with
  | ⟨_, actions, .error (.oversized numeral)⟩ => ⟨(), actions, .error numeral⟩
  | ⟨_, actions, .error (.template failure)⟩ =>
    ⟨(), actions ++ failureActions unit.sourcePath failure, .ok (.left unit failure)⟩
  | ⟨tally, actions, .ok changed⟩ =>
    ⟨(), actions, .ok ⟨unit.sourcePath, changed.getD unit, changed.isSome, tally, none⟩⟩

/-- The work on a file, in a phase of its own if the run touches it. -/
def file (configuration : Configuration) (store : Store) (unit : CompilationUnit) :
    Work Action Unit OversizedNumeral FileReport :=
  if configuration.touches unit then
    Work.inPhase ("Apply " ++ unit.sourcePath) "" (outcome configuration store unit)
  else pure (.untouched unit)

/-- The work on a batch of files, in order. -/
def batch (configuration : Configuration) (store : Store) (units : List CompilationUnit) :
    Work Action Unit OversizedNumeral (List FileReport) :=
  Work.inPhase "Apply" (Scan.batchDetail units) (Work.forEach (file configuration store) units)

end Apply

/-- What came of a run: the files in order, and the number of entries stored. -/
structure RunReport where
  files : List FileReport
  entries : Nat
  deriving DecidableEq, Inhabited

namespace RunReport

/-- The files as the run leaves them. -/
def units (result : RunReport) : List CompilationUnit := result.files.map FileReport.unit

/-- No file failed. -/
def success (result : RunReport) : Bool := result.files.all FileReport.success

/-- The failures of all files, each with its file. -/
def errors (result : RunReport) : List String :=
  result.files.flatMap fun file => file.errors.map fun error => file.sourcePath ++ ": " ++ error

end RunReport

/-- Runs both phases over a batch of files. -/
def run (configuration : Configuration) (units : List CompilationUnit) :
    Work Action Unit OversizedNumeral RunReport := fun _ =>
  let scanned := Scan.batch configuration units (.starting .empty)
  match scanned.outcome with
  | .error numeral => ⟨(), scanned.known, .error numeral⟩
  | .ok () =>
    let applied := Apply.batch configuration scanned.state.store units ()
    ⟨(), scanned.known ++ applied.known,
      applied.outcome.map fun files => ⟨files, scanned.state.store.size⟩⟩

end TypedDefaults
