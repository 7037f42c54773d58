import TypedDefaults.CommandLine.Perform

/-!
# The program

The program takes what a command may look at from the file system, performs the
command on it, shows what the command shows, and brings the changes back. All
that is decided is decided by `Command.perform`; here it meets the system.
-/

namespace TypedDefaults.Program

open Files CommandLine

/-- A location as the system names it. -/
def nameOf (location : Location) : String := "/" ++ Text.join "/" location

/-- The text of a file. One that holds no text is read as empty. -/
def textOf (location : Location) : IO String := do
  try
    IO.FS.readFile (nameOf location)
  catch _ => return ""

/-- What the system has at a location. -/
def contentAt (location : Location) : IO (Option Content) := do
  let place := (← IO.currentDir) / nameOf location
  if ← place.isDir then return some .directory
  if ← place.pathExists then return some (.file (← textOf location))
  return none

/-- Adds to a tree what the system has at a location. -/
def take (tree : FileTree) (location : Location) : IO FileTree := do
  match ← contentAt location with
  | some content => return tree.put location content
  | none => return tree

/-- Adds to a tree what the system has at a location and below it. Links to directories are not
followed. -/
partial def takeBelow (tree : FileTree) (location : Location) : IO FileTree := do
  let place := (← IO.currentDir) / nameOf location
  let mut tree ← take tree location
  if ← place.isDir then
    if (← IO.FS.realPath place) == place then
      for entry in ← place.readDir do
        tree ← takeBelow tree (location ++ [entry.fileName])
  return tree

/-- The locations that are passed on the way along a path. -/
def passed (tree : FileTree) (path : Path) : List Location :=
  (List.range (path.parts.length + 1)).map fun count =>
    tree.resolve { path with parts := path.parts.take count }

/-- The locations at which a settings file may be looked for. -/
def settingsPlaces (places : List Location) : List Location :=
  (places.flatMap fun place => Configuration.outwards place place.length).eraseDups.map fun place =>
    place ++ [Configuration.fileName]

/-- The tree of all that a command may look at. -/
def treeFor (command : Command) : IO FileTree := do
  let bare : FileTree := ⟨[], (Path.ofText (← IO.currentDir).toString).parts⟩
  let places := bare.here :: command.paths.flatMap (passed bare)
  let around := places.flatMap fun place => Configuration.outwards place place.length
  let mut tree := bare
  for location in (around.filter fun location => !location.isEmpty).eraseDups do
    tree ← take tree location
  for location in settingsPlaces places do
    tree ← take tree location
  for path in command.paths do
    tree ← takeBelow tree (bare.resolve path)
  return tree

/-- Brings back to the system what a command changed. -/
def bringBack (before after : FileTree) : IO Unit := do
  for (location, content) in after.contents do
    if before.content? location ≠ some content then
      match content with
      | .directory => IO.FS.createDirAll (nameOf location)
      | .file text => IO.FS.writeFile (nameOf location) text

/-- Performs a command on the system. The result is the exit code. -/
def perform (command : Command) : IO UInt32 := do
  let before ← treeFor command
  let done := command.perform before
  for shown in done.known do
    for line in shown.lines do
      IO.println line
  bringBack before done.state
  match done.outcome with
  | .ok code => return code.toUInt32
  | .error abort =>
    IO.eprintln abort.message
    return 1

end TypedDefaults.Program

/-- Reads the command line and performs its command. -/
def main (words : List String) : IO UInt32 := do
  match TypedDefaults.CommandLine.Command.ofWords words with
  | .error mistake =>
    for line in TypedDefaults.CommandLine.usage do
      IO.eprintln line
    IO.eprintln (TypedDefaults.CommandLine.programName ++ ": error: " ++ mistake.message)
    return TypedDefaults.CommandLine.usageCode.toUInt32
  | .ok .help =>
    for line in TypedDefaults.CommandLine.usage do
      IO.println line
    return 0
  | .ok command => TypedDefaults.Program.perform command
