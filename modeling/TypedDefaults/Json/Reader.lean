import TypedDefaults.Json.Token
import TypedDefaults.Json.Value

/-!
# Reading JSON documents

Tokens are put together by a machine with a stack of unfinished arrays and
objects. A token either fits what the innermost of them expects or spoils the
document. Documents are read within limits on their depth and their numbers.
-/

namespace TypedDefaults.Json

/-- What documents must keep to: how deep containers that are not empty may nest, and how many
characters the whole part of a number may have. -/
structure Limits where
  depth : Nat := 200
  whole : Nat := Numeral.digitLimit
  deriving DecidableEq, Repr, Inhabited

/-- An unfinished container, its parts last first. An object may have read the name of a field
whose value is still to come. -/
inductive Frame where
  | array (elements : List Json)
  | object (fields : List (String × Json))
  | field (fields : List (String × Json)) (name : String)
  deriving Inhabited

/-- What may come next. -/
inductive Expectation where
  | value
  | firstElement
  | firstName
  | name
  | colon
  | more
  | nothing (document : Json)
  deriving Inhabited

/-- The machine: unfinished containers, innermost first, and what may come next. -/
structure Reader where
  frames : List Frame
  expects : Expectation
  deriving Inhabited

namespace Reader

/-- The machine at the start of a document. -/
def start : Reader := ⟨[], .value⟩

/-- A finished value goes into the innermost container, or is the document. -/
def finish (frames : List Frame) (value : Json) : Option Reader :=
  match frames with
  | [] => some ⟨[], .nothing value⟩
  | .array elements :: outer => some ⟨.array (value :: elements) :: outer, .more⟩
  | .field fields name :: outer => some ⟨.object ((name, value) :: fields) :: outer, .more⟩
  | .object _ :: _ => none

/-- A token where a value is expected. -/
def readValue (frames : List Frame) : Token → Option Reader
  | .openArray => some ⟨.array [] :: frames, .firstElement⟩
  | .openObject => some ⟨.object [] :: frames, .firstName⟩
  | .null => finish frames .null
  | .boolean value => finish frames (.boolean value)
  | .integer value => finish frames (.integer value)
  | .decimal value => finish frames (.decimal value)
  | .string value => finish frames (.string value)
  | _ => none

/-- The end of the innermost container, written with the bracket that opened it. -/
def close (frames : List Frame) (token : Token) : Option Reader :=
  match frames, token with
  | .array elements :: outer, .closeArray => finish outer (.array elements.reverse)
  | .object fields :: outer, .closeObject => finish outer (.object fields.reverse)
  | _, _ => none

/-- The name of a field. -/
def readName (frames : List Frame) (token : Token) : Option Reader :=
  match frames, token with
  | .object fields :: outer, .string name => some ⟨.field fields name :: outer, .colon⟩
  | _, _ => none

/-- One token moves the machine. The first part of a container is refused when more than `limit`
containers are open. -/
def step (limit : Nat) (reader : Reader) (token : Token) : Option Reader :=
  let frames := reader.frames
  match reader.expects with
  | .value => readValue frames token
  | .firstElement =>
    if token = .closeArray then close frames token
    else if frames.length ≤ limit then readValue frames token else none
  | .firstName =>
    if token = .closeObject then close frames token
    else if frames.length ≤ limit then readName frames token else none
  | .name => readName frames token
  | .colon => if token = .colon then some ⟨frames, .value⟩ else none
  | .more =>
    match frames, token with
    | .array _ :: _, .comma => some ⟨frames, .value⟩
    | .object _ :: _, .comma => some ⟨frames, .name⟩
    | _, _ => close frames token
  | .nothing _ => none

/-- The machine after all tokens. -/
def run (limit : Nat) (reader : Reader) (tokens : List Token) : Option Reader :=
  tokens.foldlM (step limit) reader

end Reader

/-- Puts tokens together to a document with containers nested at most `limit` deep. -/
def ofTokens? (limit : Nat) (tokens : List Token) : Option Json :=
  match Reader.start.run limit tokens with
  | some ⟨[], .nothing document⟩ => some document
  | _ => none

/-- Reads a document that keeps to limits. -/
def readWithin? (limits : Limits) (text : String) : Option Json :=
  tokens? limits.whole text >>= ofTokens? limits.depth

/-- Reads a document. -/
def read? (text : String) : Option Json := readWithin? {} text

end TypedDefaults.Json
