import TypedDefaults.Configuration.Reader
import TypedDefaults.Configuration.Section
import TypedDefaults.Console
import TypedDefaults.Files.Tree
import TypedDefaults.Work

/-!
# Loading a configuration

Settings come from three places: from the nearest settings file, from words of
the command line, and from explicit arguments. Later places override earlier
ones. The nearest file is looked for from a starting place outwards, and the
first one found counts, whatever it holds; one that cannot be read counts as
empty, with a warning.
-/

namespace TypedDefaults

open Files

/-- What ends a command without an exit code. -/
inductive Abort where
  | section (error : SectionError)
  | oversized (numeral : OversizedNumeral)
  | file (error : FileError)
  deriving DecidableEq, Repr, Inhabited

/-- The text of what ends a command. -/
def Abort.message : Abort → String
  | .section error => error.message
  | oversized numeral => numeral.message
  | file error => error.message

namespace Configuration

/-- The name of settings files. -/
def fileName : String := "pyproject.toml"

/-- A location and the locations around it, nearest first. `depth` is the number of those around. -/
def outwards (location : Location) : Nat → List Location
  | 0 => [location]
  | depth + 1 => location :: outwards location.dropLast depth

/-- The nearest settings file from a starting place outwards: its location and text. -/
def nearestFile? (tree : FileTree) (start : Path) : Option (Location × String) :=
  let place := tree.resolve start
  (outwards place place.length).findSome? fun around =>
    match tree.content? (around ++ [fileName]) with
    | some (.file text) => some (around ++ [fileName], text)
    | _ => none

/-- The warning about a file that cannot be read. -/
def unreadable (location : Location) : Message :=
  ⟨.warning, "Ignoring unreadable " ++ Message.path ("/" ++ Text.join "/" location)⟩

variable {σ : Type}

/-- The settings of the nearest file. -/
def fileSettings (tree : FileTree) (start : Path) : Work Shown σ Abort Settings :=
  match nearestFile? tree start with
  | none => pure []
  | some (location, text) =>
    match Toml.read text with
    | .error (.oversized numeral) => Work.fail (.oversized numeral)
    | .error .malformed => do
      Work.tell [.message (unreadable location)]
      pure []
    | .ok document =>
      match Setting.ofDocument document with
      | .error error => Work.fail (.section error)
      | .ok settings => pure settings

/-- The configuration from the nearest file, overridden by settings, overridden by arguments. -/
def load (tree : FileTree) (start : Path) (settings arguments : Settings) :
    Work Shown σ Abort (Checked Configuration) := do
  let stored ← fileSettings tree start
  pure (ofSettings (stored ++ settings ++ arguments))

end Configuration

end TypedDefaults
