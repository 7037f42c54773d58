import TypedDefaults.CommandLine.Options
import TypedDefaults.Configuration.Setting
import TypedDefaults.Files.Path

/-!
# Commands

The words of a command line name a command and its options: `migrate` changes
tree documents, `schema` prints the holder family; help and the version may be
asked for instead. Options act in the order in which they are written, so that a
plea for help before a mistake is heard, and one behind it is not.
-/

namespace TypedDefaults.CommandLine

open Files

/-- What to migrate, and how. The number of workers is a setting that is still to be read. -/
structure MigrateRequest where
  paths : List Path
  output : Option Path
  render : Bool
  settings : List String
  trace : Option Path
  workers : Option Setting
  deriving DecidableEq, Repr, Inhabited

/-- What is asked for. -/
inductive Command where
  | version
  | help
  | migrate (request : MigrateRequest)
  | schema (holder : Option Setting)
  deriving DecidableEq, Repr, Inhabited

/-- The paths that a command reads or writes. -/
def Command.paths : Command → List Path
  | migrate request => request.paths ++ request.output.toList ++ request.trace.toList
  | _ => []

/-- The option that asks for help. -/
def helpForm : OptionForm := ⟨["--help", "-h"], .none⟩

/-- The options in front of a command. -/
def mainForms : List OptionForm := [helpForm, ⟨["--version"], .none⟩]

/-- The options of `migrate`. -/
def migrateForms : List OptionForm :=
  [helpForm, ⟨["--out"], .one⟩, ⟨["--render"], .none⟩, ⟨["--config"], .many⟩,
   ⟨["--json-trace"], .one⟩, ⟨["--workers"], .one⟩]

/-- The options of `schema`. -/
def schemaForms : List OptionForm := [helpForm, ⟨["--holder"], .one⟩]

/-- A request as far as it is read, and the words that nobody took. -/
structure Draft where
  request : MigrateRequest
  holder : Option Setting
  extras : List String
  deriving DecidableEq, Repr, Inhabited

/-- Nothing read. -/
def Draft.empty : Draft := ⟨⟨[], none, false, [], none, none⟩, none, []⟩

namespace Draft

/-- Reads a number as a setting. Without an argument it is none that could be read. -/
def countOf : List String → Except UsageError Setting
  | [] => .ok .compound
  | argument :: _ =>
    match Numeral.integer? argument with
    | some count => .ok (.integer count)
    | none => .error (.notANumber argument)

/-- A text as a setting. Without an argument it is none that could be read. -/
def textOf : List String → Setting
  | [] => .compound
  | argument :: _ => .text argument

/-- Takes an option. The last one of a name counts. -/
def take (draft : Draft) (name : String) (arguments : List String) : Except UsageError Draft :=
  let request := draft.request
  let path := arguments.head?.map Path.ofText
  if name = "--out" then .ok { draft with request := { request with output := path } }
  else if name = "--render" then .ok { draft with request := { request with render := true } }
  else if name = "--config" then
    .ok { draft with request := { request with settings := arguments } }
  else if name = "--json-trace" then .ok { draft with request := { request with trace := path } }
  else if name = "--workers" then
    (countOf arguments).map fun count =>
      { draft with request := { request with workers := some count } }
  else .ok { draft with holder := some (textOf arguments) }

/-- The request, unless words are left over. -/
def finish (draft : Draft) (command : Command) : Except UsageError Command :=
  if draft.extras.isEmpty then .ok command else .error (.unrecognized draft.extras)

end Draft

/-- Reads the parts behind a command. Nothing means that help was asked for. -/
def readParts : List Part → Draft → Except UsageError (Option Draft)
  | [], draft => .ok (some draft)
  | .wrong error :: _, _ => .error error
  | .extra word :: rest, draft =>
    readParts rest { draft with extras := draft.extras ++ [word] }
  | .positional words :: rest, draft =>
    readParts rest { draft with request := { draft.request with paths := words.map Path.ofText } }
  | .option name arguments :: rest, draft =>
    if name = helpForm.name then .ok none
    else
      match draft.take name arguments with
      | .error error => .error error
      | .ok draft => readParts rest draft

/-- Reads the words behind a command. `extras` are words in front of it that nobody took. -/
def readWords (forms : List OptionForm) (positional : Positional) (words extras : List String)
    (finish : Draft → Except UsageError Command) : Except UsageError Command :=
  match partsOf forms positional words with
  | .error error => .error error
  | .ok parts =>
    match readParts parts { Draft.empty with extras } with
    | .error error => .error error
    | .ok none => .ok .help
    | .ok (some draft) => finish draft

/-- The request of `migrate`, which needs a path at least. -/
def finishMigrate (draft : Draft) : Except UsageError Command :=
  if draft.request.paths.isEmpty then .error .noPaths
  else draft.finish (.migrate draft.request)

/-- Reads a command and the words behind it. -/
def readCommand (extras : List String) : List String → Except UsageError Command
  | [] => .error .noCommand
  | word :: words =>
    if word = "migrate" then readWords migrateForms .atLeastOne words extras finishMigrate
    else if word = "schema" then
      readWords schemaForms .none words extras fun draft => draft.finish (.schema draft.holder)
    else .error (.unknownCommand word)

/-- Reads the parts in front of a command and the command. -/
def readMain (extras : List String) : List Part → Except UsageError Command
  | [] => .error .noCommand
  | .wrong error :: _ => .error error
  | .extra word :: rest => readMain (extras ++ [word]) rest
  | .positional words :: _ => readCommand extras words
  | .option name _ :: _ => .ok (if name = helpForm.name then .help else .version)

/-- The command that the words of a command line stand for. -/
def Command.ofWords (words : List String) : Except UsageError Command :=
  match partsOf mainForms .everything words with
  | .error error => .error error
  | .ok parts => readMain [] parts

end TypedDefaults.CommandLine
