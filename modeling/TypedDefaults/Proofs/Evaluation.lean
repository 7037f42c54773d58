import TypedDefaults.Proofs.References
import TypedDefaults.Proofs.StringTokens

/-!
# Values of defaults

The strings behind symbols are given by an environment, and what the parse
methods of the boxes and the characters of strings are by a library; nothing is
assumed of either. From these follow the value that an occurrence stands for,
and the value of a companion's argument in a file, which may lead through a
synthesized field. A field converts its anchor into the value that the
occurrence stands for, also where the entry was made for another occurrence.
-/

namespace TypedDefaults

open Java

/-- The strings behind symbols, which are told apart by their owner and name. -/
abbrev Environment := Option ClassType → String → String

/-- What run-time conversions of strings give: the static methods of the boxes, by class and method,
and the characters of a string, by the token of an index. -/
structure Library (α : Type) where
  parse : String → String → String → α
  charAt : String → String → α

/-- The value of a default: what a conversion gives, the strings of a container, or the constant
that a token of a primitive type stands for. -/
inductive Value (α : Type) where
  | converted (result : α)
  | strings (parts : List String)
  | constant (token : String)
  deriving DecidableEq

section

variable {α : Type} (library : Library α) (environment : Environment)

/-- The value of a string for members of a kind. -/
def Kind.valueOf? (kind : Kind) (text : String) : Option (Value α) :=
  match kind with
  | .boolean => some (.converted (library.parse "Boolean" "parseBoolean" text))
  | .byte => some (.converted (library.parse "Byte" "parseByte" text))
  | .char => some (.converted (library.charAt text "0"))
  | .short => some (.converted (library.parse "Short" "parseShort" text))
  | .int => some (.converted (library.parse "Integer" "parseInt" text))
  | .long => some (.converted (library.parse "Long" "parseLong" text))
  | .float => some (.converted (library.parse "Float" "parseFloat" text))
  | .double => some (.converted (library.parse "Double" "parseDouble" text))
  | .list => (Literal.split "," text).toOption.map .strings
  | .array => (Literal.split "," text).toOption.map .strings
  | .set => (Literal.split "," text).toOption.map .strings
  | _ => none

/-- The string behind an anchor: the text of a literal, or that of the symbol. -/
def Anchor.textIn : Anchor → String
  | .literal token _ => Literal.unquote token
  | .localSymbol _ symbol => environment symbol.owner symbol.name
  | .qualified _ _ _ symbol => environment symbol.owner symbol.name

/-- The value that an occurrence stands for. A scalar literal stands for the constant that it is
converted to; containers of literals and all symbols for the value of the string behind them. -/
def Occurrence.meaning? (occurrence : Occurrence) : Option (Value α) :=
  match Anchor.ofExpression? occurrence.value with
  | none => none
  | some (.literal token type) =>
    if occurrence.kind.isScalar then
      match Literal.convert occurrence.kind token with
      | .ok (some (.literal source _)) => some (.constant source)
      | _ => none
    else occurrence.kind.valueOf? library (Anchor.textIn environment (.literal token type))
  | some anchor => occurrence.kind.valueOf? library (anchor.textIn environment)

/-- The string that an expression stands for. -/
def Java.Expression.textIn? : Expression → Option String
  | .literal token _ => some (Literal.unquote token)
  | .identifier name => name.symbol.map fun symbol => environment symbol.owner symbol.name
  | .fieldAccess _ name _ => name.symbol.map fun symbol => environment symbol.owner symbol.name
  | _ => none

/-- The value of a conversion: a call of a static method of a class with a string, or of a method of
a string with a literal. -/
def Java.Expression.convertedIn? : Expression → Option (Value α)
  | .call "split" (some text) [.literal separator _] _ => do
    let parts ← (Literal.split (Literal.unquote separator) (← text.textIn? environment)).toOption
    some (.strings parts)
  | .call "charAt" (some text) [.literal index _] _ =>
    (text.textIn? environment).map fun text => .converted (library.charAt text index)
  | .call method (some (.identifier ⟨owner, none, _⟩)) [text] _ =>
    (text.textIn? environment).map fun text => .converted (library.parse owner method text)
  | _ => none

/-- The field of a class of the file, looked up by the names of the class and the field. -/
def Java.CompilationUnit.fieldOf? (unit : CompilationUnit) (owner : ClassType) (name : String) :
    Option FieldDeclaration :=
  match unit.positions.find? fun position =>
      position.type.qualifiedName = owner.qualifiedName with
  | none => none
  | some position =>
    match position.declaration.body.find? (Member.declares name) with
    | some (.field declaration) => some declaration
    | _ => none

/-- The value of a field of the file, given by the name that refers to it. -/
def Java.CompilationUnit.valueOfField? (unit : CompilationUnit) (name : Identifier) :
    Option (Value α) := do
  let symbol ← name.symbol
  let declaration ← unit.fieldOf? (← symbol.owner) symbol.name
  (← declaration.initializer).convertedIn? library environment

/-- The value of a companion's argument in the file. -/
def Java.CompilationUnit.valueOf? (unit : CompilationUnit) : Expression → Option (Value α)
  | .literal token _ => some (.constant token)
  | .arrayInitializer elements => (elements.mapM (Expression.textIn? environment)).map .strings
  | .identifier name => unit.valueOfField? library environment name
  | .fieldAccess _ name _ => unit.valueOfField? library environment name
  | _ => none

end

section

variable {α : Type} (library : Library α) (environment : Environment)

/-- Kinds that share their storage share the value of a string. -/
theorem Kind.valueOf?_storage (kind : Kind) (text : String) :
    kind.storage.valueOf? library text = kind.valueOf? library text := by
  cases kind <;> rfl

/-- Splitting at a comma never fails. -/
theorem split_comma (text : String) :
    Literal.split "," text = .ok (Literal.splitAtCommas text) := by
  rfl

/-- An array of literals stands for the strings that were split off. -/
theorem valueOf?_toArray (unit : CompilationUnit) (token : String) :
    unit.valueOf? library environment (Literal.toArray token) =
      some (.strings (Literal.splitAtCommas (Literal.unquote token))) := by
  have elements : ∀ parts : List String,
      (parts.map fun part => Expression.literal ("\"" ++ part ++ "\"") none).mapM
        (Expression.textIn? environment) = some parts := by
    intro parts
    induction parts with
    | nil => rfl
    | cons part rest inductionHypothesis =>
      rw [List.map_cons, List.mapM_cons, inductionHypothesis]
      simp [Expression.textIn?, unquote_quoted]
  rw [Literal.toArray, CompilationUnit.valueOf?, elements]
  rfl

/-- The template of a kind converts a string into the value that it has for the kind. -/
theorem convertedIn?_build (kind : Kind) (type : JavaType) (conversion : Conversion)
    (parts : FieldTemplate.parts? kind.storage = some (type, conversion)) (written : Expression)
    (text : String) (reads : written.textIn? environment = some text) :
    (conversion.build written).convertedIn? library environment = kind.valueOf? library text := by
  have comma : Literal.unquote "\",\"" = "," := unquote_quoted ","
  cases kind <;>
    simp only [Kind.storage, Kind.isContainer, FieldTemplate.parts?, Option.some.injEq,
      Prod.mk.injEq, if_true, if_false, Bool.false_eq_true, reduceCtorEq] at parts <;>
    obtain ⟨_, rfl⟩ := parts <;>
    simp [Conversion.build, Expression.convertedIn?, Kind.valueOf?, reads, comma, split_comma,
      Except.toOption]

/-- The anchor of an expression reads as the expression does, however it is written. -/
theorem textIn?_written (value : Expression) (anchor : Anchor) (written : Expression)
    (anchored : Anchor.ofExpression? value = some anchor) (writes : anchor.WrittenAs written) :
    written.textIn? environment = some (anchor.textIn environment) := by
  have again := Anchor.ofExpression?_expression anchored
  cases writes with
  | found =>
    cases anchor with
    | literal token type => rfl
    | localSymbol name symbol =>
      obtain ⟨_, known, same⟩ := Option.map_eq_some_iff.mp again
      obtain ⟨_, rfl⟩ := Anchor.localSymbol.inj same
      simp [Anchor.expression, Expression.textIn?, known, Anchor.textIn]
    | qualified target name type symbol =>
      obtain ⟨_, known, same⟩ := Option.map_eq_some_iff.mp again
      obtain ⟨_, _, _, rfl⟩ := Anchor.qualified.inj same
      simp [Anchor.expression, Expression.textIn?, known, Anchor.textIn]
  | requalified target name type symbol owner =>
    obtain ⟨_, known, same⟩ := Option.map_eq_some_iff.mp again
    obtain ⟨_, _, _, rfl⟩ := Anchor.qualified.inj same
    simp [Expression.textIn?, known, Anchor.textIn]

/-- Occurrences whose keys have one identity have the same string behind their anchors, and the same
storage. -/
theorem text_of_shared_key (configuration : Configuration) (first second : Occurrence)
    (firstKey secondKey : Key) (firstAnchor secondAnchor : Anchor)
    (firstKeyed : first.Keyed configuration firstKey firstAnchor)
    (secondKeyed : second.Keyed configuration secondKey secondAnchor)
    (shared : firstKey.identity = secondKey.identity) :
    firstAnchor.textIn environment = secondAnchor.textIn environment ∧
      first.kind.storage = second.kind.storage := by
  have symbols : ∀ (anchor : Anchor) (symbol : Symbol), anchor.symbol? = some symbol →
      anchor.textIn environment = environment symbol.owner symbol.name := by
    intro anchor symbol named
    cases anchor with
    | literal token type => cases named
    | localSymbol name found => rw [← Option.some.inj named]; rfl
    | qualified target name type found => rw [← Option.some.inj named]; rfl
  obtain ⟨_, analysed, outcome⟩ := firstKeyed
  obtain ⟨_, otherAnalysed, otherOutcome⟩ := secondKeyed
  obtain ⟨_, _, ⟨token, type, container, rfl, rfl⟩ | ⟨symbol, named, rfl⟩⟩ :=
    first.analyse_keyed configuration _ firstKey firstAnchor analysed outcome
  · obtain ⟨_, _, ⟨otherToken, otherType, otherContainer, rfl, rfl⟩ | ⟨otherSymbol, _, rfl⟩⟩ :=
      second.analyse_keyed configuration _ secondKey secondAnchor otherAnalysed otherOutcome
    · obtain ⟨_, rfl⟩ := Key.literal.inj shared
      rw [first.kind.storage_of_container container,
        second.kind.storage_of_container otherContainer]
      exact ⟨rfl, rfl⟩
    · cases shared
  · obtain ⟨_, _, ⟨_, _, _, _, rfl⟩ | ⟨otherSymbol, otherNamed, rfl⟩⟩ :=
      second.analyse_keyed configuration _ secondKey secondAnchor otherAnalysed otherOutcome
    · cases shared
    · obtain ⟨_, identity, storage⟩ := Key.symbol.inj shared
      obtain ⟨owner, name, _⟩ := Symbol.mk.inj identity
      rw [symbols _ symbol named, symbols _ otherSymbol otherNamed, owner, name]
      exact ⟨rfl, storage⟩

end

end TypedDefaults
