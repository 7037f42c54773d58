import TypedDefaults.Files.Path
import TypedDefaults.Text.Quoted

/-!
# File trees

The files and directories that a command works on, as a value. A location is the
list of names from the root on; every location but the root, which is always a
directory, has at most one entry. Paths are followed part by part: each step
needs a directory to start from, and a double point leads back to the directory
around. What cannot be done is reported with its cause and the path asked for.
-/

namespace TypedDefaults.Files

/-- The names from the root on. -/
abbrev Location := List String

/-- What is found at a location. -/
inductive Content where
  | file (text : String)
  | directory
  deriving DecidableEq, Repr, Inhabited

/-- Why something could not be done. -/
inductive Fault where
  | notFound
  | exists
  | notADirectory
  | isADirectory
  deriving DecidableEq, Repr, Inhabited

/-- The number and the words for a fault. -/
def Fault.describe : Fault → String
  | notFound => "[Errno 2] No such file or directory"
  | .exists => "[Errno 17] File exists"
  | notADirectory => "[Errno 20] Not a directory"
  | isADirectory => "[Errno 21] Is a directory"

/-- A fault and the path asked for. -/
structure FileError where
  fault : Fault
  path : Path
  deriving DecidableEq, Repr, Inhabited

/-- The text of an error. -/
def FileError.message (error : FileError) : String :=
  error.fault.describe ++ ": " ++ Text.quoted error.path.text

/-- Files and directories by location, and the location at which relative paths start. -/
structure FileTree where
  contents : List (Location × Content)
  here : Location
  deriving DecidableEq, Repr, Inhabited

namespace FileTree

/-- What is found at a location. -/
def content? (tree : FileTree) (location : Location) : Option Content :=
  if location.isEmpty then some .directory else tree.contents.lookup location

/-- The location is a directory. -/
def isDirectoryAt (tree : FileTree) (location : Location) : Bool :=
  tree.content? location = some .directory

/-- Replaces what is found at a location, or adds it. -/
def replace (location : Location) (content : Content) :
    List (Location × Content) → List (Location × Content)
  | [] => [(location, content)]
  | (other, found) :: rest =>
    if other = location then (location, content) :: rest
    else (other, found) :: replace location content rest

/-- The tree with something at a location. -/
def put (tree : FileTree) (location : Location) (content : Content) : FileTree :=
  { tree with contents := replace location content tree.contents }

/-- Follows parts from a location. -/
def follow (tree : FileTree) : List String → Location → Except Fault Location
  | [], location => .ok location
  | part :: rest, location =>
    match tree.content? location with
    | some .directory =>
      tree.follow rest (if part = ".." then location.dropLast else location ++ [part])
    | some (.file _) => .error .notADirectory
    | none => .error .notFound

/-- The location at which a path starts. -/
def startOf (tree : FileTree) (path : Path) : Location := if path.root = "" then tree.here else []

/-- The location that a path leads to. There may be nothing yet. -/
def locate (tree : FileTree) (path : Path) : Except Fault Location :=
  tree.follow path.parts (tree.startOf path)

/-- The location that a path names by its parts alone, whether or not they exist. -/
def resolve (tree : FileTree) (path : Path) : Location :=
  path.parts.foldl
    (fun location part => if part = ".." then location.dropLast else location ++ [part])
    (tree.startOf path)

/-- What a path leads to, if anything. -/
def at? (tree : FileTree) (path : Path) : Option Content :=
  match tree.locate path with
  | .ok location => tree.content? location
  | .error _ => none

/-- The path leads to something. -/
def isPresent (tree : FileTree) (path : Path) : Bool := (tree.at? path).isSome

/-- The path leads to a directory. -/
def isDirectory (tree : FileTree) (path : Path) : Bool := tree.at? path = some .directory

/-- The text of the file that a path leads to. -/
def read (tree : FileTree) (path : Path) : Except FileError String :=
  match tree.locate path with
  | .error fault => .error ⟨fault, path⟩
  | .ok location =>
    match tree.content? location with
    | some (.file text) => .ok text
    | some .directory => .error ⟨.isADirectory, path⟩
    | none => .error ⟨.notFound, path⟩

/-- Writes the file that a path leads to. Its directory must exist. -/
def write (tree : FileTree) (path : Path) (text : String) : Except FileError FileTree :=
  match tree.locate path with
  | .error fault => .error ⟨fault, path⟩
  | .ok location =>
    match tree.content? location with
    | some .directory => .error ⟨.isADirectory, path⟩
    | _ => .ok (tree.put location (.file text))

/-- Makes one directory where there is nothing. The directory around it must exist. -/
def makeDirectory (tree : FileTree) (path : Path) : Except Fault FileTree :=
  match tree.locate path with
  | .error fault => .error fault
  | .ok location =>
    match tree.content? location with
    | some _ => .error .exists
    | none => .ok (tree.put location .directory)

/-- Makes a directory unless it exists. -/
def ensureDirectory (tree : FileTree) (path : Path) : Except FileError FileTree :=
  match tree.makeDirectory path with
  | .ok made => .ok made
  | .error fault =>
    if fault ≠ .notFound && tree.isDirectory path then .ok tree else .error ⟨fault, path⟩

/-- Makes a directory and those around it as far as they are missing. `depth` bounds the number of
directories around it. -/
def ensureWithin (tree : FileTree) (path : Path) : Nat → Except FileError FileTree
  | 0 => tree.ensureDirectory path
  | depth + 1 =>
    if tree.makeDirectory path matches .error .notFound then
      match tree.ensureWithin path.parent depth with
      | .error error => .error error
      | .ok around => around.ensureDirectory path
    else tree.ensureDirectory path

/-- Makes a directory and those around it as far as they are missing. -/
def ensureDirectories (tree : FileTree) (path : Path) : Except FileError FileTree :=
  tree.ensureWithin path path.parts.length

/-- Writes a file, and makes the directories around it as far as they are missing. -/
def writeWithDirectories (tree : FileTree) (path : Path) (text : String) :
    Except FileError FileTree :=
  match tree.ensureDirectories path.parent with
  | .error error => .error error
  | .ok around => around.write path text

/-- The parts that lead from one location to another one below it. -/
def below? (location other : Location) : Option (List String) :=
  if location.isPrefixOf other && decide (location.length < other.length) then
    some (other.drop location.length)
  else none

/-- The parts that lead from a directory to everything below it whose name has an ending, in
order. -/
def namesBelow (tree : FileTree) (location : Location) (ending : String) : List (List String) :=
  Path.sortParts ((tree.contents.filterMap fun entry => below? location entry.1).filter fun parts =>
    ending.toList.isSuffixOf (parts.getLast?.getD "").toList)

/-- What is found at a location after replacing: the new content at the location, the old one
elsewhere. -/
theorem lookup_replace (location other : Location) (content : Content)
    (contents : List (Location × Content)) :
    (replace location content contents).lookup other =
      if other = location then some content else contents.lookup other := by
  induction contents with
  | nil =>
    by_cases same : other = location
    · simp [replace, same]
    · have differs : (other == location) = false := by simpa using same
      simp [replace, List.lookup_cons, same, differs]
  | cons entry rest hypothesis =>
    obtain ⟨first, found⟩ := entry
    by_cases here : first = location
    · subst here
      by_cases same : other = first
      · simp [replace, same]
      · have differs : (other == first) = false := by simpa using same
        simp [replace, List.lookup_cons, same, differs]
    · by_cases same : other = first
      · have differs : ¬ other = location := by rw [same]; exact here
        simp [replace, here, same]
      · have apart : (other == first) = false := by simpa using same
        simp [replace, List.lookup_cons, here, apart, hypothesis]

end FileTree

end TypedDefaults.Files
