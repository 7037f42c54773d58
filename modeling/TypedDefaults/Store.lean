import TypedDefaults.FieldTemplate
import TypedDefaults.Text.Parts

/-!
# The store

A run keeps one entry for every anchored value that needs a field. Entries are
written once: the first record under a key decides, later ones find it there.
Symbols are keyed by file, identity and storage kind, so that all containers of
a symbol share an entry; literals are keyed by file and token. The order of
entries is the order in which they came.
-/

namespace TypedDefaults

open Java

/-- What an entry is stored under. The type noted on the symbol of a key is carried along, and is no
part of the key's identity. -/
inductive Key where
  | symbol (file : String) (symbol : Symbol) (kind : Kind)
  | literal (file : String) (token : String)
  deriving DecidableEq, Repr, Inhabited

/-- A kind whose values have no key. -/
structure NotKeyed where
  kind : Kind
  deriving DecidableEq, Repr, Inhabited

/-- The text of the complaint about a kind whose values have no key. -/
def NotKeyed.message (refused : NotKeyed) : String :=
  "Kind '" ++ refused.kind.word ++ "' never yields an accumulator key"

namespace Key

/-- The file of a key. -/
def file : Key → String
  | .symbol file _ _ => file
  | .literal file _ => file

/-- The part of a key by which entries are found. -/
def identity : Key → Key
  | .symbol file target kind => .symbol file target.identity kind
  | .literal file token => .literal file token

/-- The key of a literal of a file. -/
def isLiteralOf (file : String) : Key → Bool
  | .literal other _ => other = file
  | .symbol _ _ _ => false

/-- The key of a symbol for values of a kind. -/
def ofSymbol (file : String) (target : Symbol) (kind : Kind) : Except NotKeyed Key :=
  if kind.isStored then .ok (.symbol file target kind.storage) else .error ⟨kind⟩

/-- The key as traces show it. -/
def describe : Key → String
  | .symbol file target kind =>
    "SymbolKey(file=" ++ Text.quoted file ++ ", symbol=" ++ target.describe ++ ", kind=" ++
      kind.describe ++ ")"
  | .literal file token =>
    "LiteralKey(file=" ++ Text.quoted file ++ ", literal_text=" ++ Text.quoted token ++ ")"

end Key

/-- Everything needed to make a field and to refer to it. -/
structure Entry where
  fieldName : String
  kind : Kind
  template : Option FieldTemplate
  context : Context
  anchor : Expression
  scope : ClassType
  deriving DecidableEq, Inhabited

namespace Entry

/-- The type of the field, if the entry has a template. -/
def fieldType? (entry : Entry) : Option JavaType := entry.template.map FieldTemplate.type

/-- The bare name of the field. -/
def fieldIdentifier (entry : Entry) : Identifier :=
  ⟨entry.fieldName, some ⟨some entry.scope, entry.fieldName, entry.fieldType?⟩, entry.fieldType?⟩

/-- The expression that refers to the field from a class: its bare name inside the class of the
field, and from elsewhere its name behind the reference to that class. -/
def reference (entry : Entry) (scope : Option ClassType) : Expression :=
  if ClassType.isSameOrEnclosing? (some entry.scope) scope = some true then
    .identifier entry.fieldIdentifier
  else .fieldAccess entry.scope.reference entry.fieldIdentifier entry.fieldType?

end Entry

/-- Entries under their keys, in the order in which they came. -/
structure Store where
  entries : List (Key × Entry)
  deriving DecidableEq, Inhabited

/-- Why a record was refused: its maker failed, or an entry of a literal is of no container kind. -/
inductive RecordError (ε : Type) where
  | maker (error : ε)
  | notAContainer (kind : Kind)
  deriving DecidableEq, Repr, Inhabited

/-- The text of the complaint about a literal entry that is no container. -/
def notAContainerMessage (kind : Kind) : String :=
  "Literal entries are restricted to container kinds, got '" ++ kind.word ++ "'"

namespace Store

/-- No entries. -/
def empty : Store := ⟨[]⟩

/-- The number of entries. -/
def size (store : Store) : Nat := store.entries.length

/-- The entry under a key. -/
def get? (store : Store) (key : Key) : Option Entry :=
  (store.entries.find? fun stored => stored.1.identity = key.identity).map Prod.snd

/-- There is an entry under a key. -/
def contains (store : Store) (key : Key) : Bool := (store.get? key).isSome

/-- The store with an entry under a key that was free. -/
def insert (store : Store) (key : Key) (entry : Entry) : Store :=
  ⟨store.entries ++ [(key, entry)]⟩

/-- The number of literals stored for a file. -/
def countLiterals (store : Store) (file : String) : Nat :=
  (store.entries.filter fun stored => stored.1.isLiteralOf file).length

/-- A literal key takes entries of container kinds only. -/
def admits (key : Key) (entry : Entry) : Bool :=
  match key with
  | .literal _ _ => entry.kind.isContainer
  | .symbol _ _ _ => true

/-- Records the entry under a key unless there is one already. The maker runs only where the key is
free. The answer holds the store, the entry under the key, and whether it is new. -/
def record {ε : Type} (store : Store) (key : Key) (make : Unit → Except ε Entry) :
    Except (RecordError ε) (Store × Entry × Bool) :=
  match store.get? key with
  | some entry => .ok (store, entry, false)
  | none =>
    match make () with
    | .error error => .error (.maker error)
    | .ok entry =>
      if admits key entry then .ok (store.insert key entry, entry, true)
      else .error (.notAContainer entry.kind)

/-- The entries of a file, in order. -/
def entriesOf (store : Store) (file : String) : List Entry :=
  (store.entries.filter fun stored => stored.1.file = file).map Prod.snd

/-- Puts an entry behind the entries whose field names do not sort after its own. -/
def insertByName (entry : Entry) : List Entry → List Entry
  | [] => [entry]
  | first :: rest =>
    if entry.fieldName < first.fieldName then entry :: first :: rest
    else first :: insertByName entry rest

/-- Entries in the order of their field names, equal ones in the order in which they came. -/
def sortByName (entries : List Entry) : List Entry :=
  entries.foldl (fun sorted entry => insertByName entry sorted) []

/-- The entries of a file whose fields belong to a class, by field name. -/
def entriesFor (store : Store) (file : String) (scope : ClassType) : List Entry :=
  sortByName ((store.entriesOf file).filter fun entry =>
    entry.scope.qualifiedName = scope.qualifiedName)

/-- Puts a name at its place among sorted distinct names. -/
def insertName (name : String) : List String → List String
  | [] => [name]
  | first :: rest =>
    if name = first then first :: rest
    else if name < first then name :: first :: rest
    else first :: insertName name rest

/-- The files that have entries, sorted. -/
def files (store : Store) : List String :=
  store.entries.foldl (fun files stored => insertName stored.1.file files) []

end Store

end TypedDefaults
