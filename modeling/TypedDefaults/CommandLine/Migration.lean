import TypedDefaults.CommandLine.Command
import TypedDefaults.CommandLine.KeyValue
import TypedDefaults.Configuration.Load
import TypedDefaults.Document.Reader
import TypedDefaults.Document.Writer
import TypedDefaults.Run

/-!
# Migrating documents

All inputs of a command make one run. Nothing is written before every input has
been read: a missing path, a bad configuration or an unreadable document ends
the command. Then the trace is written, if one is asked for, and every file,
changed or not, goes to its place under the output directory, or to the standard
output where there is none. A table sums up what became of the files.
-/

namespace TypedDefaults.CommandLine

open Files Java

/-- A document to be read, and its place under the output directory. -/
structure Input where
  source : Path
  place : List String
  deriving DecidableEq, Repr, Inhabited

/-- What documents in directories end in. -/
def documentSuffix : String := ".json"

/-- The inputs of a path: the documents below a directory, in order, or a file under its own
name. -/
def inputsOf (tree : FileTree) (path : Path) : List Input :=
  match tree.locate path, tree.isDirectory path with
  | .ok location, true =>
    (tree.namesBelow location documentSuffix).map fun parts => ⟨path ++ Path.relative parts, parts⟩
  | _, _ => [⟨path, (Path.relative [path.name]).parts⟩]

/-- The inputs of all paths. -/
def inputs (tree : FileTree) (paths : List Path) : List Input := paths.flatMap (inputsOf tree)

/-- A number of problems and where they are. -/
def problemCount (issues : List Issue) (subject : String) : String :=
  let problems := if issues.length = 1 then " validation error" else " validation errors"
  toString issues.length ++ problems ++ " for " ++ subject

/-- The error about a document that cannot be read. -/
def unreadable (input : Input) (reason : String) : Message :=
  ⟨.error, "Failed to load " ++ Message.path input.source.text ++ ": " ++ reason⟩

/-- Reads a document. -/
def readInput (tree : FileTree) (input : Input) : Except Message CompilationUnit :=
  match tree.read input.source with
  | .error error => .error (unreadable input error.message)
  | .ok text =>
    match Document.parse text with
    | .valid unit => .ok unit
    | .invalid issues =>
      .error (unreadable input
        ("Invalid tree document: " ++ problemCount issues "CompilationUnit"))

/-- Reads documents up to the first one that cannot be read. -/
def readInputs (tree : FileTree) : List Input → Except Message (List CompilationUnit)
  | [] => .ok []
  | input :: rest =>
    match readInput tree input with
    | .error message => .error message
    | .ok unit => (readInputs tree rest).map (unit :: ·)

/-- The work of a command. -/
abbrev Task := Work Shown FileTree Abort

/-- Shows a message. -/
def say (level : Level) (text : String) : Task Unit := Work.tell [.message ⟨level, text⟩]

/-- A record of a trace, with its number for an id. The time of the event is left out. -/
def ofRecord (number : Nat) (record : Record) : Json :=
  .object
    [("id", .string (toString number)), ("type", .string record.event.type.word),
     ("description", .string record.event.description),
     ("parent_id", Document.optional (fun parent => .string (toString parent)) record.parent),
     ("metadata", .object (record.event.details.map fun (name, value) => (name, .string value)))]

/-- The document of a trace. -/
def traceDocument (trace : Trace) : Json := .array (trace.records.mapIdx ofRecord)

/-- The text of a trace. -/
def traceText (trace : Trace) : String := (traceDocument trace).write (.asciiLines 2)

/-- Writes the trace. A trace that cannot be written ends nothing. -/
def writeTrace (path : Path) (trace : Trace) : Task Unit := do
  let tree ← Work.state
  match tree.ensureDirectories path.parent with
  | .error error => say .error ("Failed to write trace: " ++ error.message)
  | .ok around =>
    Work.modify fun _ => around
    match around.write path (traceText trace) with
    | .error error => say .error ("Failed to write trace: " ++ error.message)
    | .ok written =>
      Work.modify fun _ => written
      say .info ("Trace saved to " ++ Message.path path.text)

/-- What is written for a file: its printed source, or its document. -/
def outputText (render : Bool) (unit : CompilationUnit) : String :=
  if render then unit.print else Document.print 2 unit

/-- Where the output for an input goes. -/
def destination (output : Path) (render : Bool) (input : Input) : Path :=
  let place := Path.relative input.place
  output ++ if render then place.withSuffix ".java" else place

/-- Writes the output for an input, or prints it. -/
def deliver (request : MigrateRequest) (input : Input) (result : FileReport) : Task Unit := do
  let text := outputText request.render result.unit
  match request.output with
  | none => Work.tell [.printed (text ++ "\n")]
  | some output =>
    let target := destination output request.render input
    let tree ← Work.state
    match tree.writeWithDirectories target text with
    | .error error => Work.fail (.file error)
    | .ok written =>
      Work.modify fun _ => written
      if result.changed then
        say .success ("Migrated: " ++ Message.path input.source.text ++ " -> " ++
          Message.path target.text)

/-- Writes or prints the output for all inputs, in order. -/
def deliverAll (request : MigrateRequest) : List (Input × FileReport) → Task Unit
  | [] => pure ()
  | (input, result) :: rest => do
    deliver request input result
    deliverAll request rest

/-- What became of a file, in a word. -/
def status (result : FileReport) : String :=
  if !result.success then "❌ Failed" else if result.changed then "✏️ Changed" else "Unchanged"

/-- The row for a file. -/
def summaryRow (result : FileReport) : List String :=
  [result.sourcePath, status result, toString result.tally.fieldsAdded,
   toString result.tally.relocated, toString result.tally.skipped, Text.join "; " result.errors]

/-- The table of all files. -/
def summaryTable (result : RunReport) : Table :=
  ⟨"Migration Report", ["File", "Status", "Fields", "Rewritten", "Skipped", "Issues"],
   result.files.map summaryRow⟩

/-- The message that ends a run. -/
def verdict (result : RunReport) : Message :=
  let failures := (result.files.filter fun file => !file.success).length
  let all := toString result.files.length
  if failures = 0 then
    ⟨.success, "Batch Complete: " ++ all ++ " files, " ++ toString result.entries ++
      " synthesized entries."⟩
  else ⟨.error, toString failures ++ "/" ++ all ++ " files left unmodified due to errors."⟩

/-- Runs over the documents read, and delivers what came of them. The result is the exit code. -/
def process (request : MigrateRequest) (configuration : Configuration) (found : List Input)
    (units : List CompilationUnit) : Task Nat := do
  say .info ("Migrating " ++ toString units.length ++ " files...")
  let done := run configuration units ()
  Work.tell ((messagesOf done.known).map .message)
  let result ← (Work.ofExcept done.outcome).mapFailure .oversized
  match request.trace with
  | some path => writeTrace path (Trace.empty.performAll done.known)
  | none => pure ()
  deliverAll request (found.zip result.files)
  Work.tell [.table (summaryTable result), .message (verdict result)]
  pure (if result.success then 0 else 1)

/-- The place from which the settings file is looked for: the first path, or what it lies in. -/
def searchStart (tree : FileTree) (paths : List Path) : Path :=
  let first := paths.headD (Path.relative [])
  if tree.isDirectory first then first else first.parent

/-- The arguments that settings are overridden with. -/
def arguments (request : MigrateRequest) : Settings :=
  (request.workers.map fun count => ("workers", count)).toList

/-- Ends a command with a message and an exit code. -/
def stop (level : Level) (text : String) (code : Nat) : Task Nat := do
  say level text
  pure code

/-- Reads the documents and runs over them. -/
def readAndProcess (request : MigrateRequest) (configuration : Configuration) : Task Nat := do
  let tree ← Work.state
  let found := inputs tree request.paths
  if found.isEmpty then stop .warning "No tree documents found." 0
  else
    match readInputs tree found with
    | .error message => stop message.level message.text 1
    | .ok units => process request configuration found units

/-- The command `migrate`. The result is the exit code. -/
def migrate (request : MigrateRequest) : Task Nat := do
  Work.tell ((KeyValue.warnings request.settings).map .message)
  let tree ← Work.state
  let missing := request.paths.filter fun path => !tree.isPresent path
  if !missing.isEmpty then
    stop .error ("Input not found: " ++ Text.join ", " (missing.map Path.text)) 1
  else
    let read ← Configuration.load tree (searchStart tree request.paths)
      (KeyValue.settings request.settings) (arguments request)
    match read with
    | .invalid issues =>
      stop .error ("Invalid configuration: " ++ problemCount issues "MigrationConfig") 1
    | .valid configuration => readAndProcess request configuration

end TypedDefaults.CommandLine
