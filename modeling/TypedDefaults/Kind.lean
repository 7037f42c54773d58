import TypedDefaults.Text.Quoted

/-!
# Kinds of values

The kind of a member is how its default value is represented at run time. It
follows from the declared type, and decides the conversion of the value, the
holder annotation that takes it, and the suffix of a synthesized field's name.
Lists, arrays and sets are all backed by one string array, so they share the
kind under which their entries are stored.
-/

namespace TypedDefaults

/-- How the default value of a member is represented. -/
inductive Kind where
  | passThroughString
  | boolean
  | byte
  | char
  | short
  | int
  | long
  | float
  | double
  | list
  | array
  | set
  | unsupported
  deriving DecidableEq, Repr, Inhabited

/-- A word that a closed vocabulary does not have. -/
structure UnknownWord where
  word : String
  vocabulary : String
  deriving DecidableEq, Repr, Inhabited

/-- The text of the complaint about an unknown word. -/
def UnknownWord.message (unknown : UnknownWord) : String :=
  Text.quoted unknown.word ++ " is not a valid " ++ unknown.vocabulary

namespace Kind

/-- Every kind. -/
def all : List Kind :=
  [passThroughString, boolean, byte, char, short, int, long, float, double, list, array, set,
   unsupported]

/-- The word for a kind. -/
def word : Kind → String
  | passThroughString => "pass_through_string"
  | boolean => "boolean"
  | byte => "byte"
  | char => "char"
  | short => "short"
  | int => "int"
  | long => "long"
  | float => "float"
  | double => "double"
  | list => "list"
  | array => "array"
  | set => "set"
  | unsupported => "unsupported"

/-- The kind that a word stands for. -/
def ofWord (text : String) : Except UnknownWord Kind :=
  match all.find? fun kind => kind.word = text with
  | some kind => .ok kind
  | none => .error ⟨text, "MaterializationKind"⟩

/-- The kind as trace keys show it. -/
def describe (kind : Kind) : String :=
  "<MaterializationKind." ++ String.ofList (kind.word.toList.map Char.toUpper) ++ ": " ++
    Text.quoted kind.word ++ ">"

/-- Kinds backed by a string array. -/
def isContainer : Kind → Bool
  | list => true
  | array => true
  | set => true
  | _ => false

/-- Kinds of a single converted value. -/
def isScalar (kind : Kind) : Bool :=
  kind != passThroughString && kind != unsupported && !kind.isContainer

/-- Kinds whose values can be stored as entries. -/
def isStored (kind : Kind) : Bool := kind.isScalar || kind.isContainer

/-- The kind under which entries are stored: containers share that of arrays. -/
def storage (kind : Kind) : Kind := if kind.isContainer then array else kind

/-- A word leads back to its kind. -/
theorem ofWord_word (kind : Kind) : ofWord kind.word = .ok kind := by
  cases kind <;> rfl

end Kind

end TypedDefaults
