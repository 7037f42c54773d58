import TypedDefaults.Kind
import TypedDefaults.Text.LowerCase
import TypedDefaults.Text.Parts

/-!
# Names of synthesized fields

A name is a base and a suffix for the kind. The base of a qualified anchor is
its text in lower case with two underscores for every dot; a bare name is its
own base; a literal is numbered within its file. Names already seen in the
class, in the classes around it and inside it, and names given out before in the
same file are avoided by numbering.
-/

namespace TypedDefaults

/-- A kind for which no field is ever synthesized. -/
structure NotSynthesized where
  kind : Kind
  deriving DecidableEq, Repr, Inhabited

/-- The text of the complaint about a kind without fields. -/
def NotSynthesized.message (refused : NotSynthesized) : String :=
  "Kind '" ++ refused.kind.word ++ "' does not synthesize fields"

namespace FieldName

/-- What the name of a field of a kind ends in. Kinds without fields have no ending. -/
def ending : Kind → String
  | .boolean => "AsBoolean"
  | .byte => "AsByte"
  | .char => "AsChar"
  | .short => "AsShort"
  | .int => "AsInt"
  | .long => "AsLong"
  | .float => "AsFloat"
  | .double => "AsDouble"
  | .list => "AsArray"
  | .array => "AsArray"
  | .set => "AsArray"
  | .passThroughString => ""
  | .unsupported => ""

/-- The ending for a kind, or the complaint that no field is synthesized for it. -/
def suffix (kind : Kind) : Except NotSynthesized String :=
  if kind.isStored then .ok (ending kind) else .error ⟨kind⟩

/-- The base for an anchor as written. -/
def baseOf (anchor : String) : String :=
  if anchor.toList.contains '.' then
    Text.lower (String.ofList (anchor.toList.flatMap fun character =>
      if character = '.' then ['_', '_'] else [character]))
  else anchor

/-- The base for a numbered literal. -/
def numberedBase (number : Int) : String := "literalArg" ++ toString number

/-- The candidate itself, then the candidate with a number behind it. -/
def numbered (candidate : String) : Nat → String
  | 0 => candidate
  | number + 1 => candidate ++ toString (number + 1)

/-- The first numbering from `number` on that is not in use, looked for among `attempts` of them. -/
def firstFree (used : List String) (candidate : String) (number : Nat) : Nat → String
  | 0 => numbered candidate number
  | attempts + 1 =>
    if used.contains (numbered candidate number) then
      firstFree used candidate (number + 1) attempts
    else numbered candidate number

/-- A name that is not in use. As many attempts as there are used names always suffice. -/
def fresh (used : List String) (candidate : String) : String :=
  firstFree used candidate 0 used.length

end FieldName

/-- The names given out, each with its file, in order. -/
structure NameRegistry where
  given : List (String × String)
  deriving DecidableEq, Repr, Inhabited

namespace NameRegistry

/-- No names given out. -/
def empty : NameRegistry := ⟨[]⟩

/-- The names given out for a file. -/
def namesOf (registry : NameRegistry) (file : String) : List String :=
  (registry.given.filter fun entry => entry.1 = file).map Prod.snd

/-- Gives out a name made of a base and an ending, and remembers it. -/
def give (registry : NameRegistry) (file base ending : String) (taken : List String) :
    String × NameRegistry :=
  let name := FieldName.fresh (registry.namesOf file ++ taken) (base ++ ending)
  (name, ⟨registry.given ++ [(file, name)]⟩)

/-- Gives out a name for a kind. -/
def generate (registry : NameRegistry) (file base : String) (kind : Kind) (taken : List String) :
    Except NotSynthesized (String × NameRegistry) :=
  (FieldName.suffix kind).map fun ending => registry.give file base ending taken

end NameRegistry

end TypedDefaults
