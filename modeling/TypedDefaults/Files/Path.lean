import TypedDefaults.Text.Parts

/-!
# Paths

A path as somebody wrote it: a root, which is empty for relative paths, and the
parts between slashes. Empty parts and single points are dropped, double points
are kept. A file name has a suffix from its last point on, unless the point is
its first or last character.
-/

namespace TypedDefaults.Files

/-- A path. -/
structure Path where
  root : String
  parts : List String
  deriving DecidableEq, Repr, Inhabited

namespace Path

/-- The slashes that make up the root: two are kept as two, and any other number counts as one. -/
def rootOf (slashes : Nat) : String :=
  if slashes = 0 then "" else if slashes = 2 then "//" else "/"

/-- Reads a path. -/
def ofText (text : String) : Path :=
  let characters := text.toList
  { root := rootOf (characters.takeWhile (· = '/')).length
    parts := ((Text.parts ['/'] characters).map String.ofList).filter fun part =>
      part ≠ "" && part ≠ "." }

/-- The path as text. The relative path without parts is a point. -/
def text (path : Path) : String :=
  let written := path.root ++ Text.join "/" path.parts
  if written.isEmpty then "." else written

/-- The last part; nothing for a path without parts. -/
def name (path : Path) : String := path.parts.getLast?.getD ""

/-- The path without its last part. -/
def parent (path : Path) : Path := { path with parts := path.parts.dropLast }

/-- A relative path of the given parts. -/
def relative (parts : List String) : Path := ⟨"", parts⟩

/-- Goes on from a path along another one. A path with a root starts anew. -/
def append (path further : Path) : Path :=
  if further.root = "" then { path with parts := path.parts ++ further.parts } else further

instance : Append Path := ⟨append⟩

/-- A file name without its suffix. -/
def stem (name : String) : String :=
  match Text.cutLast? '.' name.toList with
  | some (before, after) =>
    if before.isEmpty || after.isEmpty then name else String.ofList before
  | none => name

/-- The path with another suffix of its name. -/
def withSuffix (path : Path) (suffix : String) : Path :=
  { path with parts := path.parts.dropLast ++ [stem path.name ++ suffix] }

/-- Lexicographic comparison of lists of parts. -/
def precedes : List String → List String → Bool
  | _, [] => false
  | [], _ :: _ => true
  | part :: rest, other :: others =>
    if part = other then precedes rest others else decide (part < other)

/-- Puts parts behind those that do not come after them. -/
def insertParts (parts : List String) : List (List String) → List (List String)
  | [] => [parts]
  | first :: rest =>
    if precedes parts first then parts :: first :: rest else first :: insertParts parts rest

/-- Lists of parts in order. -/
def sortParts (all : List (List String)) : List (List String) :=
  all.foldl (fun sorted parts => insertParts parts sorted) []

end Path

end TypedDefaults.Files
