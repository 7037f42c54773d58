import TypedDefaults.CommandLine.Migration
import TypedDefaults.Holder

/-!
# Performing commands

A command line is read and performed on a file tree. Performing it shows
messages, text and tables, changes the tree, and ends with an exit code, unless
something ends it without one. A command line that cannot be read has the exit
code 2.
-/

namespace TypedDefaults.CommandLine

open Files

/-- The name of the program. -/
def programName : String := "default-migrator"

/-- The version of the program. -/
def programVersion : String := "0.1.0"

/-- The exit code for command lines that cannot be read. -/
def usageCode : Nat := 2

/-- The forms of a command line. -/
def usage : List String :=
  ["usage: " ++ programName ++ " [-h] [--version]",
   "       " ++ programName ++ " migrate [-h] [--out OUT] [--render] [--config [CONFIG ...]]",
   "         [--json-trace JSON_TRACE] [--workers WORKERS] paths [paths ...]",
   "       " ++ programName ++ " schema [-h] [--holder HOLDER]"]

/-- The command `schema`: prints the holder family. The result is the exit code. -/
def schema (holder : Option Setting) : Task Nat := do
  let tree ← Work.state
  let given := (holder.map fun name => ("value_holder", name)).toList
  let read ← Configuration.load tree (Path.relative []) [] given
  match read with
  | .invalid issues =>
    stop .error ("Invalid holder type: " ++ problemCount issues "MigrationConfig") 1
  | .valid configuration =>
    Work.tell [.printed (Holder.schema configuration.valueHolder)]
    pure 0

/-- Performs a command. -/
def Command.perform : Command → Task Nat
  | version => do
    Work.tell [.printed (programName ++ " " ++ programVersion ++ "\n")]
    pure 0
  | help => pure 0
  | .migrate request => CommandLine.migrate request
  | .schema holder => CommandLine.schema holder

/-- Performs the words of a command line. -/
def perform (words : List String) : Task Nat :=
  match Command.ofWords words with
  | .ok command => command.perform
  | .error _ => pure usageCode

end TypedDefaults.CommandLine
