import TypedDefaults.Files.Tree

/-!
# What becomes of a file tree

A path that can be followed leads to the location that its parts name. Making
directories adds them where there is nothing, and a file is written only where
there is no directory. So directories stay what they are, a path that could be
followed once leads to the same location ever after, and a file keeps its text
until its own location is written.
-/

namespace TypedDefaults.Files.FileTree

variable {tree after : FileTree} {path : Path} {written : List Location}

/-- Below the root, something put at a location is found there, and elsewhere what was there
before. -/
theorem content?_put (tree : FileTree) {location : Location} (below : location ≠ [])
    (content : Content) (other : Location) :
    (tree.put location content).content? other =
      if other = location then some content else tree.content? other := by
  cases other with
  | nil => rw [if_neg (Ne.symm below)]; rfl
  | cons name names =>
    simp only [content?, put, List.isEmpty_cons, Bool.false_eq_true, if_false]
    exact lookup_replace location (name :: names) content tree.contents

/-- A location that holds no directory is below the root. -/
theorem below_of_content? {location : Location}
    (other : tree.content? location ≠ some .directory) : location ≠ [] := by
  rintro rfl
  exact other rfl

/-- A tree becomes another one: relative paths start where they did, directories stay, and so do
files but for those at certain locations. -/
structure Becomes (tree after : FileTree) (written : List Location) : Prop where
  here : after.here = tree.here
  directories : ∀ location, tree.content? location = some .directory →
    after.content? location = some .directory
  files : ∀ location text, tree.content? location = some (.file text) → location ∉ written →
    after.content? location = some (.file text)

namespace Becomes

/-- A tree stays as it is. -/
theorem refl (tree : FileTree) : Becomes tree tree [] :=
  ⟨rfl, fun _ found => found, fun _ _ found _ => found⟩

/-- More locations may be allowed to be written. -/
theorem mono {more : List Location} (becomes : Becomes tree after written)
    (among : written ⊆ more) : Becomes tree after more :=
  ⟨becomes.here, becomes.directories, fun location text found apart =>
    becomes.files location text found fun inside => apart (among inside)⟩

/-- What is written in two steps is written. -/
theorem trans {middle : FileTree} {later : List Location} (first : Becomes tree middle written)
    (second : Becomes middle after later) : Becomes tree after (written ++ later) where
  here := second.here.trans first.here
  directories := fun location found =>
    second.directories location (first.directories location found)
  files := fun location text found apart => by
    rw [List.mem_append, not_or] at apart
    exact second.files location text (first.files location text found apart.1) apart.2

/-- Paths name the locations that they named. -/
theorem resolve (becomes : Becomes tree after written) (path : Path) :
    after.resolve path = tree.resolve path := by
  rw [FileTree.resolve, FileTree.resolve, startOf, startOf, becomes.here]

/-- Parts that could be followed lead to the same location. -/
theorem follow (becomes : Becomes tree after written) {parts : List String}
    {start location : Location} (followed : tree.follow parts start = .ok location) :
    after.follow parts start = .ok location := by
  induction parts generalizing start with
  | nil => exact followed
  | cons part rest inductionHypothesis =>
    rw [FileTree.follow] at followed ⊢
    cases found : tree.content? start with
    | none => simp [found] at followed
    | some content =>
      cases content with
      | file text => simp [found] at followed
      | directory =>
        rw [found] at followed
        rw [becomes.directories start found]
        exact inductionHypothesis followed

/-- A path that could be followed leads to the same location. -/
theorem locate (becomes : Becomes tree after written) {location : Location}
    (located : tree.locate path = .ok location) : after.locate path = .ok location := by
  rw [FileTree.locate, startOf] at located ⊢
  rw [becomes.here]
  exact becomes.follow located

/-- A directory put where there is nothing changes nothing else. -/
theorem putDirectory {location : Location} (absent : tree.content? location = none) :
    Becomes tree (tree.put location .directory) [] := by
  have noDirectory : tree.content? location ≠ some .directory := by simp [absent]
  have below := below_of_content? noDirectory
  have kept : ∀ other content, tree.content? other = some content →
      (tree.put location .directory).content? other = some content := by
    intro other content found
    rw [content?_put tree below, if_neg, found]
    rintro rfl
    simp [absent] at found
  exact ⟨rfl, fun other => kept other .directory, fun other text found _ =>
    kept other (.file text) found⟩

/-- A file put where there is no directory changes nothing else. -/
theorem putFile {location : Location} (text : String)
    (noDirectory : tree.content? location ≠ some .directory) :
    Becomes tree (tree.put location (.file text)) [location] := by
  have below : location ≠ [] := below_of_content? noDirectory
  refine ⟨rfl, fun other found => ?_, fun other before found apart => ?_⟩
  · rw [content?_put tree below, if_neg, found]
    rintro rfl
    exact noDirectory found
  · rw [content?_put tree below, if_neg (by simpa using apart), found]

end Becomes

/-- Parts that can be followed lead to the location that they name. -/
theorem follow_exact {parts : List String} {start location : Location}
    (followed : tree.follow parts start = .ok location) :
    location = parts.foldl
      (fun location part => if part = ".." then location.dropLast else location ++ [part])
      start := by
  induction parts generalizing start with
  | nil => exact (Except.ok.inj followed).symm
  | cons part rest inductionHypothesis =>
    rw [follow] at followed
    split at followed
    · exact inductionHypothesis followed
    · cases followed
    · cases followed

/-- A path that can be followed leads to the location that it names. -/
theorem locate_exact {location : Location} (located : tree.locate path = .ok location) :
    location = tree.resolve path :=
  follow_exact located

/-- Without double points, further parts lead further down. -/
theorem resolve_plain (tree : FileTree) (path : Path) {parts : List String}
    (plain : ".." ∉ parts) :
    tree.resolve { path with parts := path.parts ++ parts } = tree.resolve path ++ parts := by
  rw [resolve, List.foldl_append]
  change parts.foldl _ (tree.resolve path) = _
  generalize tree.resolve path = location
  induction parts generalizing location with
  | nil => simp
  | cons part rest inductionHypothesis =>
    rw [List.mem_cons, not_or] at plain
    rw [List.foldl_cons, if_neg (Ne.symm plain.1), inductionHypothesis plain.2]
    simp

/-- Making a directory writes no file. -/
theorem becomes_of_makeDirectory (made : tree.makeDirectory path = .ok after) :
    Becomes tree after [] := by
  rw [makeDirectory] at made
  split at made
  · cases made
  · split at made
    · cases made
    · rename_i absent
      obtain rfl := Except.ok.inj made
      exact .putDirectory absent

/-- Making a directory unless it exists writes no file. -/
theorem becomes_of_ensureDirectory (made : tree.ensureDirectory path = .ok after) :
    Becomes tree after [] := by
  rw [ensureDirectory] at made
  split at made
  · rename_i created
    obtain rfl := Except.ok.inj made
    exact becomes_of_makeDirectory created
  · split at made
    · obtain rfl := Except.ok.inj made
      exact .refl tree
    · cases made

/-- Making a directory with those around it writes no file. -/
theorem becomes_of_ensureWithin {depth : Nat} (made : tree.ensureWithin path depth = .ok after) :
    Becomes tree after [] := by
  induction depth generalizing path after with
  | zero => exact becomes_of_ensureDirectory made
  | succ depth inductionHypothesis =>
    rw [ensureWithin] at made
    split at made
    · cases around : tree.ensureWithin path.parent depth with
      | error error => simp [around] at made
      | ok middle =>
        rw [around] at made
        exact (inductionHypothesis around).trans (becomes_of_ensureDirectory made)
    · exact becomes_of_ensureDirectory made

/-- The text of a file is read where the path leads to the file. -/
theorem read_iff (text : String) :
    tree.read path = .ok text ↔
      tree.locate path = .ok (tree.resolve path) ∧
        tree.content? (tree.resolve path) = some (.file text) := by
  rw [read]
  cases located : tree.locate path with
  | error fault => simp
  | ok location =>
    obtain rfl := locate_exact located
    dsimp only
    cases tree.content? (tree.resolve path) with
    | none => simp
    | some content => cases content <;> simp

/-- A file keeps its text until it is written. -/
theorem Becomes.read (becomes : Becomes tree after written) {text : String}
    (found : tree.read path = .ok text) (apart : tree.resolve path ∉ written) :
    after.read path = .ok text := by
  rw [read_iff] at found ⊢
  rw [becomes.resolve]
  exact ⟨becomes.locate found.1, becomes.files _ text found.2 apart⟩

/-- A path that led to a file reads what another path to its location does. -/
theorem Becomes.read_alias (becomes : Becomes tree after written) {other : Path}
    {before text : String} (found : tree.read path = .ok before)
    (same : after.resolve other = after.resolve path) (last : after.read other = .ok text) :
    after.read path = .ok text := by
  rw [read_iff] at found last ⊢
  refine ⟨?_, same ▸ last.2⟩
  rw [becomes.resolve]
  exact becomes.locate found.1

/-- Writing writes the file that the path names, and nothing else. -/
theorem write_exact {text : String} (wrote : tree.write path text = .ok after) :
    Becomes tree after [tree.resolve path] ∧ after.read path = .ok text := by
  rw [write] at wrote
  cases located : tree.locate path with
  | error fault => simp [located] at wrote
  | ok location =>
    obtain rfl := locate_exact located
    simp only [located] at wrote
    split at wrote
    · cases wrote
    · rename_i noDirectory
      obtain rfl := Except.ok.inj wrote
      have becomes := Becomes.putFile text noDirectory
      refine ⟨becomes, (read_iff text).mpr ⟨?_, ?_⟩⟩
      · rw [becomes.resolve]
        exact becomes.locate located
      · rw [becomes.resolve, content?_put tree (below_of_content? noDirectory), if_pos rfl]

/-- Writing with the directories around the file writes the file that the path names, and nothing
else. -/
theorem writeWithDirectories_exact {text : String}
    (wrote : tree.writeWithDirectories path text = .ok after) :
    Becomes tree after [tree.resolve path] ∧ after.read path = .ok text := by
  rw [writeWithDirectories] at wrote
  split at wrote
  · cases wrote
  · rename_i around
    have becomes := becomes_of_ensureWithin around
    obtain ⟨file, found⟩ := write_exact wrote
    rw [becomes.resolve] at file
    exact ⟨becomes.trans file, found⟩

end TypedDefaults.Files.FileTree
