import TypedDefaults.Proofs.FirstOccurrences
import TypedDefaults.Proofs.JavaIdentifiers

/-!
# What the names of synthesized fields are made of

The name of a field is a base, the ending of its kind, and a number where one is
needed. The base for a literal is numbered; for a name it is the text of the
anchor, with two underscores for every dot. Whether that makes an identifier is
decided by the leftmost operand of the anchor: a name is a word, but a call, an
array or an assignment is written with a sign that no word has, and the sign
stays in the name of the field.
-/

namespace TypedDefaults

open Java

/-- What the name of a field for an anchor starts with: a literal is numbered, and a name is taken
as it is written. -/
inductive Anchor.HasBase : Anchor → String → Prop where
  | numbered (token : String) (type : Option JavaType) (number : Nat) :
      HasBase (.literal token type) (FieldName.numberedBase number)
  | written (anchor : Anchor) (symbol : Symbol) (named : anchor.symbol? = some symbol) :
      HasBase anchor (FieldName.baseOf anchor.text)

/-- A scan takes a base of the anchor for the name of a field. -/
theorem ScanState.hasBase_baseFor (state : ScanState) (file : String) (anchor : Anchor) :
    anchor.HasBase (state.baseFor file anchor) := by
  cases anchor with
  | literal token type => exact .numbered token type _
  | localSymbol name symbol => exact .written _ symbol rfl
  | qualified target name type symbol => exact .written _ symbol rfl

/-- The name of the field of an entry is a base for the anchor, the ending of the kind, and a number
where one is needed. -/
structure Entry.NamedFrom (entry : Entry) (occurrence : Occurrence) (anchor : Anchor)
    (base : String) (index : Nat) : Prop where
  start : anchor.HasBase base
  name : entry.fieldName =
    FieldName.numbered (base ++ FieldName.ending occurrence.kind.storage) index

/-- Every entry of a scan was made for an occurrence of the batch, and is named from its anchor. -/
theorem Entry.named_from {configuration : Configuration} {units : List CompilationUnit} {key : Key}
    {entry : Entry} (stored : (key, entry) ∈ (scanned configuration units).store.entries) :
    ∃ occurrence ∈ Occurrence.ofBatch configuration units, ∃ anchor base index,
      entry.MadeFor configuration occurrence key anchor ∧
        entry.NamedFrom occurrence anchor base index := by
  obtain ⟨before, first, anchor, made⟩ := Entry.made_first configuration _ key entry stored
  obtain ⟨later, split⟩ := made.split
  let state := before.foldl (ScanState.scan configuration) (.starting .empty)
  obtain ⟨index, numbered⟩ := FieldName.firstFree_numbered
    (state.names.namesOf first.file ++ ScanState.takenAt first.position)
    (state.baseFor first.file anchor ++ FieldName.ending first.kind.storage) 0
    (state.names.namesOf first.file ++ ScanState.takenAt first.position).length
  have madeFor : entry.MadeFor configuration first key anchor := by
    rw [made.made]
    exact ScanState.entryFor_made configuration _ first key anchor made.keyed
  refine ⟨first, ?_, anchor, state.baseFor first.file anchor, index, madeFor,
    state.hasBase_baseFor first.file anchor, ?_⟩
  · rw [split]
    exact List.mem_append_right _ List.mem_cons_self
  · rw [made.made]
    exact numbered

/-- A stored kind is stored under a kind that is stored as well. -/
theorem Kind.isStored_storage (kind : Kind) (stored : kind.isStored = true) :
    kind.storage.isStored = true := by
  cases kind <;> first | rfl | exact stored

namespace FieldName

/-- The text with two underscores for every dot. -/
def flattened (text : List Char) : List Char :=
  text.flatMap fun character => if character = '.' then ['_', '_'] else [character]

/-- A text without dots is flat. -/
theorem flattened_eq_self {text : List Char} (flat : '.' ∉ text) : flattened text = text := by
  induction text with
  | nil => rfl
  | cons first rest inductionHypothesis =>
    rw [List.mem_cons, not_or] at flat
    rw [flattened, List.flatMap_cons, if_neg (Ne.symm flat.1), ← flattened,
      inductionHypothesis flat.2, List.singleton_append]

/-- Flattening goes through a text part by part. -/
theorem flattened_append (text more : List Char) :
    flattened (text ++ more) = flattened text ++ flattened more := List.flatMap_append

/-- A character that no word has is left by flattening. -/
theorem not_isJavaWord_flattened {text : List Char} {character : Char} (more : List Char)
    (written : character ∈ text) (sign : character ≠ '.')
    (foreign : Text.isPartCode character.toNat = false) :
    ¬Text.isJavaWord (flattened text ++ more) = true := by
  have left : character ∈ flattened text := by
    refine List.mem_flatMap.mpr ⟨character, written, ?_⟩
    rw [if_neg sign]
    exact List.mem_singleton_self _
  rw [Text.not_isJavaWord_of_mem (List.mem_append_left _ left) foreign]
  exact Bool.false_ne_true

/-- Flattening makes no text shorter. -/
theorem length_le_flattened (text : List Char) :
    text.length ≤ (flattened text).length := by
  induction text with
  | nil => exact Nat.zero_le _
  | cons first rest inductionHypothesis =>
    rw [flattened] at inductionHypothesis ⊢
    rw [List.flatMap_cons, List.length_append, List.length_cons]
    split
    · rw [List.length_cons, List.length_singleton]
      omega
    · rw [List.length_singleton]
      omega

/-- A base for a text is no shorter than the text. -/
theorem length_le_baseOf (text : String) :
    text.toList.length ≤ (baseOf text).toList.length := by
  rw [baseOf]
  split
  · rw [Text.lower, String.toList_ofList, String.toList_ofList]
    exact (length_le_flattened text.toList).trans (Text.length_le_lowerFrom [] _)
  · exact Nat.le_refl _

/-- The base for a text is a word exactly if the flattened text is one. -/
theorem isJavaWord_baseOf (text : String) :
    Text.isJavaWord (baseOf text).toList = Text.isJavaWord (flattened text.toList) := by
  rw [baseOf]
  split
  · rw [Text.lower, String.toList_ofList, Text.isJavaWord_lowerFrom, String.toList_ofList,
      flattened]
  · rename_i flat
    rw [flattened_eq_self (by simpa using flat)]

/-- Identifiers are flat, and words. -/
theorem word_of_identifier {name : String} (identifier : Text.isJavaIdentifier name = true) :
    Text.isJavaWord name.toList = true ∧ flattened name.toList = name.toList := by
  rw [Text.isJavaIdentifier, Bool.and_eq_true] at identifier
  refine ⟨identifier.1, flattened_eq_self fun dotted => ?_⟩
  rw [Text.not_isJavaWord_of_mem dotted (by decide +kernel)] at identifier
  cases identifier.1

/-- Each ending has parts of words only, and a letter that no reserved word has. -/
theorem ending_parts (kind : Kind) (stored : kind.isStored = true) :
    ((ending kind).toList.all fun part => Text.isPartCode part.toNat) = true ∧
      'A' ∈ (ending kind).toList := by
  cases kind with
  | passThroughString => cases stored
  | unsupported => cases stored
  | _ => exact ⟨by decide +kernel, by decide +kernel⟩

/-- A number behind a text has parts of words only. -/
theorem numbered_toList (candidate : String) (index : Nat) :
    ∃ number : List Char, (numbered candidate index).toList = candidate.toList ++ number ∧
      (number.all fun part => Text.isPartCode part.toNat) = true := by
  cases index with
  | zero => exact ⟨[], by simp [numbered], rfl⟩
  | succ index =>
    exact ⟨(toString (index + 1)).toList, String.toList_append .., Text.all_numeral _⟩

/-- A base with the ending of a kind and a number is an identifier exactly if the base is a word. -/
theorem isJavaIdentifier_numbered (base : String) (kind : Kind) (index : Nat)
    (nonempty : base.toList ≠ []) (stored : kind.isStored = true) :
    Text.isJavaIdentifier (numbered (base ++ ending kind) index) = Text.isJavaWord base.toList := by
  obtain ⟨number, written, digits⟩ := numbered_toList (base ++ ending kind) index
  obtain ⟨parts, capital⟩ := ending_parts kind stored
  rw [String.toList_append] at written
  have small : ∀ word ∈ Text.reservedWords, 'A' ∉ word.toList := by decide +kernel
  have free : numbered (base ++ ending kind) index ∉ Text.reservedWords := by
    intro reserved
    apply small _ reserved
    rw [written]
    exact List.mem_append_left _ (List.mem_append_right _ capital)
  rw [Text.isJavaIdentifier, written, List.append_assoc, Text.isJavaWord_append _ _ nonempty,
    List.all_append, parts, digits]
  simp [free]

end FieldName

mutual

/-- The names in an expression: those of variables, of members, and of methods. -/
def Java.Expression.names : Expression → List String
  | .literal _ _ => []
  | .identifier name => [name.name]
  | .fieldAccess target name _ => target.names ++ [name.name]
  | .call name none arguments _ => name :: Expression.namesAll arguments
  | .call name (some receiver) arguments _ =>
    receiver.names ++ name :: Expression.namesAll arguments
  | .arrayInitializer elements => Expression.namesAll elements
  | .assignment target value => target.name :: value.names

/-- The names in expressions. -/
def Java.Expression.namesAll : List Expression → List String
  | [] => []
  | expression :: rest => expression.names ++ Expression.namesAll rest

end

/-- The leftmost operand of an expression is a name, or a literal whose token is written as a word
or not at all. -/
def Java.Expression.StartsAsWord : Expression → Prop
  | .literal token _ => Text.isJavaWord (FieldName.flattened token.toList ++ ['_']) = true
  | .identifier _ => True
  | .fieldAccess target _ _ => target.StartsAsWord
  | _ => False

/-- The anchor is a literal, a bare name, or a name behind a qualifier that starts as a word. -/
def Anchor.StartsAsWord : Anchor → Prop
  | .literal _ _ => True
  | .localSymbol _ _ => True
  | .qualified target _ _ _ => target.StartsAsWord

/-- An identifier behind a qualifier, with further parts of words behind it, leaves open only
whether the qualifier starts as a word. -/
theorem FieldName.isJavaWord_access (target : Expression) (name : Identifier)
    (type : Option JavaType) (more : List Char)
    (identifier : Text.isJavaIdentifier name.name = true)
    (parts : (more.all fun part => Text.isPartCode part.toNat) = true) :
    Text.isJavaWord (flattened (Expression.fieldAccess target name type).print.toList ++ more) =
      Text.isJavaWord (flattened target.print.toList ++ ['_']) := by
  obtain ⟨word, flat⟩ := word_of_identifier identifier
  have split : flattened (Expression.fieldAccess target name type).print.toList ++ more =
      (flattened target.print.toList ++ ['_']) ++ '_' :: (name.name.toList ++ more) := by
    rw [Expression.print, String.toList_append, String.toList_append, flattened_append,
      flattened_append, flat]
    simp [flattened]
  have underscore : Text.isPartCode '_'.toNat = true := by decide +kernel
  rw [split, Text.isJavaWord_append _ _ (by simp), List.all_cons, List.all_append,
    Text.all_of_isJavaWord word, parts, underscore, Bool.and_self, Bool.and_self, Bool.and_true]

/-- In front of further parts of words, an expression whose names are identifiers is a word exactly
if it starts as one. -/
theorem Java.Expression.isJavaWord_flattened : ∀ expression : Expression,
    (∀ name ∈ expression.names, Text.isJavaIdentifier name = true) →
      (Text.isJavaWord (FieldName.flattened expression.print.toList ++ ['_']) = true ↔
        expression.StartsAsWord)
  | .literal _ _, _ => Iff.rfl
  | .identifier name, names => by
    obtain ⟨word, flat⟩ :=
      FieldName.word_of_identifier (names name.name (List.mem_singleton_self _))
    have nonempty : name.name.toList ≠ [] := by
      intro empty
      rw [empty] at word
      cases word
    rw [Expression.print, flat, Text.isJavaWord_append _ _ nonempty, word]
    exact iff_of_true (by decide +kernel) trivial
  | .fieldAccess target name type, names => by
    rw [Expression.names, List.forall_mem_append] at names
    have identifier := names.2 name.name (List.mem_singleton_self _)
    rw [FieldName.isJavaWord_access target name type ['_'] identifier (by decide +kernel)]
    exact isJavaWord_flattened target names.1
  | .call name receiver arguments type, _ => by
    refine iff_of_false (FieldName.not_isJavaWord_flattened ['_'] ?_ (by decide)
      (by decide +kernel : Text.isPartCode '('.toNat = false)) id
    cases receiver <;> simp [Expression.print]
  | .arrayInitializer elements, _ => by
    refine iff_of_false (FieldName.not_isJavaWord_flattened ['_'] ?_ (by decide)
      (by decide +kernel : Text.isPartCode '\x7b'.toNat = false)) id
    simp [Expression.print]
  | .assignment target value, _ => by
    refine iff_of_false (FieldName.not_isJavaWord_flattened ['_'] ?_ (by decide)
      (by decide +kernel : Text.isPartCode '='.toNat = false)) id
    simp [Expression.print]

/-- A base is not empty. Where the names in the anchor are identifiers, it is a word exactly if the
anchor starts as one. -/
theorem Anchor.HasBase.isJavaWord {anchor : Anchor} {base : String} (based : anchor.HasBase base)
    (names : ∀ name ∈ anchor.expression.names, Text.isJavaIdentifier name = true) :
    base.toList ≠ [] ∧ (Text.isJavaWord base.toList = true ↔ anchor.StartsAsWord) := by
  cases based with
  | numbered token type number =>
    have written : (FieldName.numberedBase number).toList =
        "literalArg".toList ++ (toString number).toList := String.toList_append
    rw [written, Text.isJavaWord_append _ _ (by decide), Text.all_numeral]
    exact ⟨by simp, iff_of_true (by decide +kernel) trivial⟩
  | written anchor symbol named =>
    cases anchor with
    | literal token type => cases named
    | localSymbol name symbol =>
      obtain ⟨word, flat⟩ :=
        FieldName.word_of_identifier (names name.name (List.mem_singleton_self _))
      have base : Text.isJavaWord (FieldName.baseOf name.name).toList = true := by
        rw [FieldName.isJavaWord_baseOf, flat, word]
      refine ⟨?_, iff_of_true base trivial⟩
      intro empty
      rw [Anchor.text, Anchor.expression, Expression.print] at empty
      rw [empty] at base
      cases base
    | qualified target name type symbol =>
      rw [Anchor.expression, Expression.names, List.forall_mem_append] at names
      have identifier := names.2 name.name (List.mem_singleton_self _)
      have access := FieldName.isJavaWord_access target name type [] identifier rfl
      rw [List.append_nil, ← FieldName.isJavaWord_baseOf] at access
      constructor
      · intro empty
        have length := FieldName.length_le_baseOf (target.print ++ "." ++ name.name)
        rw [Anchor.text, Anchor.expression, Expression.print] at empty
        rw [empty] at length
        simp at length
      · rw [Anchor.text, Anchor.expression, access]
        exact target.isJavaWord_flattened names.1

/-- Every name in a value that the file assigns to the attribute is an identifier. -/
def Java.CompilationUnit.NamesIdentifiers (configuration : Configuration)
    (unit : CompilationUnit) : Prop :=
  ∀ occurrence ∈ Occurrence.ofUnit configuration unit, ∀ name ∈ occurrence.value.names,
    Text.isJavaIdentifier name = true

instance (configuration : Configuration) (unit : CompilationUnit) :
    Decidable (unit.NamesIdentifiers configuration) :=
  inferInstanceAs (Decidable (∀ occurrence ∈ Occurrence.ofUnit configuration unit,
    ∀ name ∈ occurrence.value.names, Text.isJavaIdentifier name = true))

/-- A field that a run synthesizes is that of an entry that was stored under the path of its file,
for an occurrence under that path. Where the names in the values of that path are identifiers, the
name of the field is one exactly if the anchor starts as a word, which it does unless it is a name
behind a call, an array, an assignment, or a literal that is not written as a word. -/
theorem field_names_identifiers (configuration : Configuration) (units : List CompilationUnit)
    (report : RunReport) (returned : (run configuration units ()).outcome = .ok report)
    (unit output : CompilationUnit) (position place : ClassPosition) (field : FieldDeclaration)
    (synthesized : Synthesized units report unit output position place field)
    (names : ∀ other ∈ units, other.sourcePath = unit.sourcePath →
      other.NamesIdentifiers configuration) :
    ∃ key entry occurrence anchor,
      (key, entry) ∈ (Scan.batch configuration units (.starting .empty)).state.store.entries ∧
      key.file = unit.sourcePath ∧ entry.field unit.imports = .ok field ∧
      occurrence ∈ Occurrence.ofBatch configuration units ∧
      entry.MadeFor configuration occurrence key anchor ∧ entry.anchor = occurrence.value ∧
      (Text.isJavaIdentifier field.name = true ↔ anchor.StartsAsWord) := by
  obtain ⟨_, _, among⟩ := synthesized.place_exact returned
  obtain ⟨entry, due, filled⟩ := (Synthesis.mem_made_iff ..).mp among
  obtain ⟨⟨key, stored, file⟩, _, _⟩ := (Synthesis.mem_due_iff ..).mp due
  obtain ⟨occurrence, seen, anchor, base, index, made, based, numbered⟩ := Entry.named_from stored
  obtain ⟨analysis, analysed, outcome⟩ := made.keyed
  obtain ⟨kindStored, anchored, _⟩ :=
    occurrence.analyse_keyed configuration analysis key anchor analysed outcome
  have value : anchor.expression = occurrence.value :=
    Anchor.expression_of_ofExpression? anchored
  have identifiers : ∀ name ∈ anchor.expression.names, Text.isJavaIdentifier name = true := by
    obtain ⟨other, listed, here⟩ := List.mem_flatMap.mp seen
    have path : other.sourcePath = unit.sourcePath := by
      rw [← (Occurrence.file_of_mem_ofUnit here).1, ← made.keyed.file, file]
    rw [value]
    exact names other listed path occurrence here
  obtain ⟨nonempty, word⟩ := based.isJavaWord identifiers
  obtain ⟨_, _, _, _, _, again⟩ := made.field_exact unit.imports
  have name : field.name = entry.fieldName := by
    rw [Except.ok.inj (filled.symm.trans again)]
  refine ⟨key, entry, occurrence, anchor, ?_, file, filled, seen, made, ?_, ?_⟩
  · rw [scan_state returned]
    exact stored
  · rw [made.anchor, value]
  · rw [name, numbered, FieldName.isJavaIdentifier_numbered _ _ _ nonempty
      (Kind.isStored_storage _ kindStored)]
    exact word

/-- The name of the field in the crowded class is an identifier: its anchor starts with the name of
a class. -/
theorem field_names_identifiers_crowded :
    ∃ output place field, Synthesized [crowdedClass] (reported {} [crowdedClass]) crowdedClass
        output crowdedClass.positions[0]! place field ∧
      field.name = "a__xAsArray2" ∧ Text.isJavaIdentifier field.name = true := by
  let report := reported {} [crowdedClass]
  let output := report.units[0]!
  let place := output.positions[0]!
  let fields := Apply.fieldsAt (scanned {} [crowdedClass]).store crowdedClass
    crowdedClass.positions[0]!
  have synthesized : Synthesized [crowdedClass] report crowdedClass output
      crowdedClass.positions[0]! place fields[0]! :=
    ⟨by decide, by decide, fields, place.declaration.body.eraseIdx 2, by decide, by decide,
      by decide⟩
  obtain ⟨key, entry, occurrence, anchor, _, _, _, seen, made, _, exactly⟩ :=
    field_names_identifiers {} [crowdedClass] report rfl _ _ _ _ _ synthesized
      (by decide +kernel)
  obtain ⟨analysis, analysed, outcome⟩ := made.keyed
  obtain ⟨_, anchored, _⟩ := occurrence.analyse_keyed {} analysis key anchor analysed outcome
  have starts : anchor.StartsAsWord := by
    obtain rfl := List.mem_singleton.mp seen
    obtain rfl := Option.some.inj anchored
    trivial
  exact ⟨output, place, fields[0]!, synthesized, by decide, exactly.mpr starts⟩

/-- A class with a number whose default is a constant behind a call. -/
def behindCall : CompilationUnit :=
  let constant : Symbol := ⟨some (.topLevel "p.A"), "X", none⟩
  singleClass [annotatedField (.primitive "int")
    (.qualified (.call "foo" none [] none) ⟨"X", some constant, none⟩ none constant)]

/-- Where a constant stands behind a call, all names in the value are identifiers. Still the name of
the field has the brackets of the call. -/
theorem call_stays_in_name :
    behindCall.NamesIdentifiers {} ∧
      ∃ report output position place field, (run {} [behindCall] ()).outcome = .ok report ∧
        Synthesized [behindCall] report behindCall output position place field ∧
        field.name = "foo()__xAsInt" ∧ Text.isJavaIdentifier field.name = false := by
  let report := reported {} [behindCall]
  let output := report.units[0]!
  let position := behindCall.positions[0]!
  let place := output.positions[0]!
  let fields := Apply.fieldsAt (scanned {} [behindCall]).store behindCall position
  have synthesized : Synthesized [behindCall] report behindCall output position place fields[0]! :=
    ⟨by decide, by decide, fields, place.declaration.body.eraseIdx 1, by decide, by decide,
      by decide⟩
  exact ⟨by decide +kernel, report, output, position, place, fields[0]!, rfl, synthesized,
    by decide, by decide +kernel⟩

end TypedDefaults
