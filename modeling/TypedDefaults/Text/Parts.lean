/-!
# Cutting and joining text

Qualified names are cut at their last dot, container literals at every
separator, and printed lists are joined again. The cutting functions work on
character lists; a cut at a separator keeps all parts, the empty ones too, so
joining the parts with the separator gives the text back.
-/

namespace TypedDefaults.Text

/-- The parts with a separator between neighbours. -/
def join (separator : String) (parts : List String) : String :=
  String.ofList (separator.toList.intercalate (parts.map String.toList))

/-- Puts a character in front of the first part. -/
def prependToFirst (character : Char) : List (List Char) → List (List Char)
  | [] => [[character]]
  | part :: rest => (character :: part) :: rest

/-- Cuts at every occurrence of a separator, from left to right and without overlap. `pending`
counts the characters of a found separator that are still to be passed over. -/
def cutAt (separator : List Char) (pending : Nat) : List Char → List (List Char)
  | [] => [[]]
  | character :: rest =>
    match pending with
    | passed + 1 => cutAt separator passed rest
    | 0 =>
      if separator.isPrefixOf (character :: rest) then
        [] :: cutAt separator (separator.length - 1) rest
      else prependToFirst character (cutAt separator 0 rest)

/-- The parts of a text between the occurrences of a non-empty separator. -/
def parts (separator text : List Char) : List (List Char) := cutAt separator 0 text

/-- The text cut at its last occurrence of a character, if it has one. -/
def cutLast? (mark : Char) : List Char → Option (List Char × List Char)
  | [] => none
  | character :: rest =>
    match cutLast? mark rest with
    | some (before, after) => some (character :: before, after)
    | none => if character = mark then some ([], rest) else none

/-- What stands after the last occurrence of a character; the whole text where it is absent. -/
def afterLast (mark : Char) (text : String) : String :=
  match cutLast? mark text.toList with
  | some (_, after) => String.ofList after
  | none => text

/-- What stands before the last occurrence of a character; the whole text where it is absent. -/
def beforeLast (mark : Char) (text : String) : String :=
  match cutLast? mark text.toList with
  | some (before, _) => String.ofList before
  | none => text

/-- The text cut at its first occurrence of a character, if it has one. -/
def cutFirst? (mark : Char) : List Char → Option (List Char × List Char)
  | [] => none
  | character :: rest =>
    if character = mark then some ([], rest)
    else (cutFirst? mark rest).map fun (before, after) => (character :: before, after)

/-- The text up to its first line feed. -/
def firstLine (text : String) : String :=
  String.ofList (text.toList.takeWhile (· ≠ '\n'))

/-- The lines of a text, without their line feeds. A final line feed ends the last line and opens
no further one. -/
def lines (text : String) : List String :=
  let all := (parts ['\n'] text.toList).map String.ofList
  if all.getLast? = some "" then all.dropLast else all

/-- Text in which every line ending, a carriage return with or without a line feed, is one line
feed. -/
def unifyLineEndings : List Char → List Char
  | [] => []
  | '\r' :: '\n' :: rest => '\n' :: unifyLineEndings rest
  | '\r' :: rest => '\n' :: unifyLineEndings rest
  | character :: rest => character :: unifyLineEndings rest

/-- A cut at the last mark loses nothing but the mark. -/
theorem eq_append_of_cutLast? {mark : Char} {text before after : List Char}
    (cut : cutLast? mark text = some (before, after)) : text = before ++ mark :: after := by
  induction text generalizing before after with
  | nil => simp [cutLast?] at cut
  | cons character rest hypothesis =>
    simp only [cutLast?] at cut
    split at cut
    · rename_i inner later found
      simp only [Option.some.injEq, Prod.mk.injEq] at cut
      obtain ⟨rfl, rfl⟩ := cut
      simp [hypothesis found]
    · split at cut
      · rename_i same
        simp only [Option.some.injEq, Prod.mk.injEq] at cut
        obtain ⟨rfl, rfl⟩ := cut
        simp [same]
      · simp at cut

end TypedDefaults.Text
