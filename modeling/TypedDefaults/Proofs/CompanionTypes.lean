import TypedDefaults.Proofs.ContainerLiterals
import TypedDefaults.Proofs.NamesApart

/-!
# Types of companions' arguments

The schema of the holder family declares a type for the value of each holder. It
is the type to which literals of the kind are converted and the type of the
fields of the kind, also of fields that were made for another container kind: a
key has the kind under which its entry is stored, and that kind decides the
type. So a companion that is added takes an argument of the type that its holder
declares. That the token of a converted literal denotes a value of its type is
not shown here.
-/

namespace TypedDefaults

open Java StringToken

mutual

/-- A type as source text spells it, classes by their qualified names. -/
def Java.JavaType.spelled : JavaType → String
  | .primitive keyword => keyword
  | .named type => type.qualifiedName
  | .generic base arguments =>
    base.qualifiedName ++ "<" ++ Text.join ", " (JavaType.spelledAll arguments) ++ ">"
  | .array element => element.spelled ++ "[]"

/-- The types of a list, spelled. -/
def Java.JavaType.spelledAll : List JavaType → List String
  | [] => []
  | type :: rest => type.spelled :: JavaType.spelledAll rest

end

/-- The expression is the literal of a string. -/
def Java.Expression.isStringLiteral : Expression → Bool
  | .literal token _ => Expression.isStringToken token
  | _ => false

/-- The type that an expression has as an argument: the one noted on it, and that of string arrays
for an initializer of string literals. -/
def Java.Expression.staticType? : Expression → Option JavaType
  | .arrayInitializer elements =>
    if elements.all Expression.isStringLiteral then some .stringArray else none
  | expression => expression.type?

namespace Kind

/-- The type of the fields for values of a kind. -/
def fieldType? (kind : Kind) : Option JavaType := (FieldTemplate.parts? kind.storage).map Prod.fst

/-- Every stored kind has a type of its fields. -/
theorem fieldType?_of_stored {kind : Kind} (stored : kind.isStored = true) :
    ∃ type, kind.fieldType? = some type := by
  obtain ⟨type, conversion, parts⟩ := parts_of_stored kind stored
  exact ⟨type, by rw [fieldType?, parts, Option.map_some]⟩

/-- The schema declares the type of the fields of a kind for the value of the kind's holder. -/
theorem holder_declares {kind : Kind} {type : JavaType} {holder : String}
    (typed : kind.fieldType? = some type) (held : Holder.name? kind = some holder) :
    Holder.members.lookup holder = some type.spelled := by
  cases kind with
  | passThroughString => cases typed
  | unsupported => cases typed
  | _ =>
    obtain rfl := Option.some.inj typed
    obtain rfl := Option.some.inj held
    decide

/-- Literals of a kind are converted to the type of the fields of the kind. -/
theorem fieldType?_of_keyword {kind : Kind} {keyword : String}
    (named : Literal.keyword? kind = some keyword) :
    kind.fieldType? = some (.primitive keyword) := by
  cases kind with
  | boolean | byte | char | short | int | long | float | double =>
    obtain rfl := Option.some.inj named
    rfl
  | _ => cases named

/-- The fields of scalars are of primitive types. -/
theorem fieldType?_of_scalar {kind : Kind} {type : JavaType} (scalar : kind.isScalar = true)
    (typed : kind.fieldType? = some type) : ∃ keyword, type = .primitive keyword := by
  cases kind with
  | boolean | byte | char | short | int | long | float | double =>
    exact ⟨_, (Option.some.inj typed).symm⟩
  | _ => cases scalar

/-- The fields of containers are arrays of strings. -/
theorem fieldType?_of_container {kind : Kind} (container : kind.isContainer = true) :
    kind.fieldType? = some .stringArray := by
  rw [fieldType?, kind.storage_of_container container]
  rfl

/-- Kinds that share their storage are both scalar or both containers, and have fields of one
type. -/
theorem fieldType?_congr {kind other : Kind} (same : kind.storage = other.storage) :
    kind.fieldType? = other.fieldType? := by
  rw [fieldType?, fieldType?, same]

end Kind

/-- The elements of an array that is made of a container literal are string literals. -/
theorem Literal.elements_toArray (token : String) :
    ∃ elements, Literal.toArray token = .arrayInitializer elements ∧
      ∀ element ∈ elements, element.isStringLiteral = true := by
  refine ⟨_, rfl, ?_⟩
  intro element inside
  obtain ⟨part, _, rfl⟩ := List.mem_map.mp inside
  exact isStringToken_quoted part

/-- The array that a container literal becomes denotes strings if the literal is a string literal
with a value. -/
theorem Literal.strings_of_toArray {token : String} {value : List CodeUnit}
    (quoted : Expression.isStringToken token = true) (valued : value? token = some value) :
    ∃ strings, (Literal.toArray token).strings? = some strings := by
  obtain ⟨text, rfl⟩ := eq_quoted_of_isStringToken quoted
  rw [value?_quoted] at valued
  obtain ⟨values, _, _, array⟩ := strings?_toArray_quoted valued
  exact ⟨trimmed values, array⟩

/-- An argument is a reference to the field recorded for the key of an occurrence, and of its type.
The first occurrence under the key, of any kind that shares the storage, had the field recorded; a
file of the same path declares it with that type. -/
structure Occurrence.RefersTyped (configuration : Configuration) (units : List CompilationUnit)
    (report : RunReport) (store : Store) (found : Occurrence) (type : JavaType) (entry : Entry)
    (argument : Expression) : Prop where
  recorded : ∃ key anchor, found.Keyed configuration key anchor ∧ store.get? key = some entry
  reference : argument = entry.reference (some found.scope)
  noted : argument.type? = some type
  symbol : ∃ name, argument.referred? = some name ∧ name.type = some type ∧
    name.symbol = some ⟨some entry.scope, entry.fieldName, some type⟩
  declared : ∃ unit ∈ units, unit.sourcePath = found.file ∧
    ∃ first ∈ Occurrence.ofUnit configuration unit,
      entry.kind = first.kind ∧ first.kind.storage = found.kind.storage ∧
      ∃ output place field, Synthesized units report unit output first.position place field ∧
        field.name = entry.fieldName ∧ field.type = some type

/-- What a companion takes as a value of a type: a literal of a primitive type, an initializer of
string literals for an array of strings, or the reference to a field, which serves both. -/
inductive Occurrence.Takes (configuration : Configuration) (units : List CompilationUnit)
    (report : RunReport) (store : Store) (found : Occurrence) : JavaType → Expression → Prop where
  | literal (keyword token : String) (scalar : found.kind.isScalar = true) :
      Takes configuration units report store found (.primitive keyword)
        (.literal token (some (.primitive keyword)))
  | strings (token : String) (noted : Option JavaType) (elements : List Expression)
      (container : found.kind.isContainer = true)
      (written : found.value = .literal token noted)
      (literals : ∀ element ∈ elements, element.isStringLiteral = true)
      (denoting : Expression.isStringToken token = true → (value? token).isSome = true →
        (Expression.arrayInitializer elements).strings?.isSome = true) :
      Takes configuration units report store found .stringArray (.arrayInitializer elements)
  | primitiveField (keyword : String) (entry : Entry) (argument : Expression)
      (scalar : found.kind.isScalar = true)
      (refers : found.RefersTyped configuration units report store (.primitive keyword) entry
        argument) :
      Takes configuration units report store found (.primitive keyword) argument
  | arrayField (entry : Entry) (argument : Expression) (container : found.kind.isContainer = true)
      (refers : found.RefersTyped configuration units report store .stringArray entry argument) :
      Takes configuration units report store found .stringArray argument

/-- A reference has the type of the field on its name, on the symbol of the name and on itself. -/
theorem Entry.reference_typed (entry : Entry) (scope : Option ClassType) :
    (entry.reference scope).type? = entry.fieldType? ∧
      (entry.reference scope).referred? = some entry.fieldIdentifier ∧
      (entry.reference scope).staticType? = entry.fieldType? := by
  rw [Entry.reference]
  split <;> exact ⟨rfl, rfl, rfl⟩

variable {configuration : Configuration} {units : List CompilationUnit} {report : RunReport}
  {found : Occurrence} {type : JavaType} {argument : Expression}

/-- What an occurrence takes has the type. -/
theorem Occurrence.Takes.typed {store : Store}
    (takes : found.Takes configuration units report store type argument) :
    argument.staticType? = some type := by
  cases takes with
  | literal keyword token scalar => rfl
  | strings token noted elements container written literals denoting =>
    rw [Expression.staticType?, if_pos (List.all_eq_true.mpr literals)]
  | primitiveField keyword entry argument scalar refers =>
    rw [refers.reference, (entry.reference_typed _).2.2, ← (entry.reference_typed _).1,
      ← refers.reference, refers.noted]
  | arrayField entry argument container refers =>
    rw [refers.reference, (entry.reference_typed _).2.2, ← (entry.reference_typed _).1,
      ← refers.reference, refers.noted]

/-- What is put in place of a literal has the type of the kind. -/
theorem Occurrence.takes_inPlace {store : Store} (analysis : Analysis)
    (analysed : found.analyse configuration = .ok analysis)
    (inPlace : analysis.outcome = .inPlace argument) (typed : found.kind.fieldType? = some type) :
    found.Takes configuration units report store type argument := by
  cases found.analyse_finds configuration analysis analysed with
  | converted token noted literal scalar written conversion =>
    obtain rfl := Outcome.inPlace.inj inPlace
    obtain ⟨source, keyword, rfl, named⟩ :=
      Literal.convert_literal found.kind token literal conversion
    obtain rfl := Option.some.inj (typed.symm.trans (Kind.fieldType?_of_keyword named))
    exact .literal keyword source scalar
  | listed token noted container written inline =>
    obtain rfl := Outcome.inPlace.inj inPlace
    rw [Kind.fieldType?_of_container container] at typed
    obtain rfl := Option.some.inj typed
    obtain ⟨elements, array, literals⟩ := Literal.elements_toArray token
    rw [array]
    refine .strings token noted elements container written literals ?_
    intro quoted valued
    obtain ⟨value, valued⟩ := Option.isSome_iff_exists.mp valued
    obtain ⟨strings, denoted⟩ := Literal.strings_of_toArray quoted valued
    rw [← array, denoted]
    rfl
  | _ => cases inPlace

/-- The kind of an occurrence with a key decides how the entry under the key is stored. -/
theorem Occurrence.Keyed.storage_of_identity {first : Occurrence} {firstKey key : Key}
    {firstAnchor anchor : Anchor} (firstKeyed : first.Keyed configuration firstKey firstAnchor)
    (keyed : found.Keyed configuration key anchor) (same : firstKey.identity = key.identity) :
    first.kind.storage = found.kind.storage := by
  obtain ⟨_, firstAnalysed, firstOutcome⟩ := firstKeyed
  obtain ⟨_, analysed, outcome⟩ := keyed
  obtain ⟨_, _, firstCases⟩ :=
    first.analyse_keyed configuration _ firstKey firstAnchor firstAnalysed firstOutcome
  obtain ⟨_, _, cases⟩ := found.analyse_keyed configuration _ key anchor analysed outcome
  rcases firstCases with ⟨_, _, firstContainer, _, rfl⟩ | ⟨_, _, rfl⟩ <;>
    rcases cases with ⟨_, _, container, _, rfl⟩ | ⟨_, _, rfl⟩
  · rw [first.kind.storage_of_container firstContainer,
      found.kind.storage_of_container container]
  · cases same
  · cases same
  · exact (Key.symbol.inj same).2.2

/-- The reference to the field recorded for a key has the type of the kind. -/
theorem Occurrence.Keyed.refers_typed {key : Key} {anchor : Anchor} {entry : Entry}
    (keyed : found.Keyed configuration key anchor)
    (stored : (scanned configuration units).store.get? key = some entry)
    (returned : (run configuration units ()).outcome = .ok report)
    (typed : found.kind.fieldType? = some type) :
    found.RefersTyped configuration units report (scanned configuration units).store type entry
      (entry.reference (some found.scope)) := by
  obtain ⟨firstKey, inside, same⟩ := Store.mem_of_get? _ key entry stored
  obtain ⟨first, seen, firstAnchor, made⟩ :=
    (scanned_records configuration units).made (firstKey, entry) inside
  obtain ⟨unit, listed, here⟩ := List.mem_flatMap.mp seen
  have kept : entry.Kept configuration units unit first firstKey firstAnchor :=
    ⟨inside, here, made⟩
  have storage := made.keyed.storage_of_identity keyed same
  have template : entry.template.map FieldTemplate.type = some type := by
    rw [← Kind.fieldType?_congr storage] at typed
    rw [made.template, FieldTemplate.ofKind?, Option.map_map]
    exact typed
  obtain ⟨noted, named, _⟩ := entry.reference_typed (some found.scope)
  obtain ⟨output, place, field, synthesized, _, name, filled⟩ := kept.synthesized listed returned
  have path : unit.sourcePath = found.file := by
    rw [← (Occurrence.file_of_mem_ofUnit here).1, ← made.keyed.file, ← keyed.file,
      ← firstKey.file_identity, same, key.file_identity]
  have declared : field.type = some type := by
    obtain ⟨fieldType, conversion, written, parts, _, again⟩ := made.field_exact unit.imports
    obtain rfl := Except.ok.inj (again.symm.trans filled)
    rw [← Kind.fieldType?_congr storage, Kind.fieldType?, parts] at typed
    exact typed
  exact {
    recorded := ⟨key, anchor, keyed, stored⟩
    reference := rfl
    noted := noted.trans template
    symbol := ⟨entry.fieldIdentifier, named, template,
      by rw [Entry.fieldIdentifier, Entry.fieldType?, template]⟩
    declared := ⟨unit, listed, path, first, here, made.kind, storage, output, place, field,
      synthesized, name, declared⟩ }

/-- A companion that a run has added, strings apart, is one of a holder of the schema and takes one
argument, of the type that the schema declares for the value of this holder. The argument is a
literal of that primitive type, an initializer of string literals, or a reference to the field
recorded for the key of an occurrence, which is declared with the type of the reference whichever
kind it was recorded for. -/
theorem companions_well_typed (configuration : Configuration) (units : List CompilationUnit)
    (report : RunReport) (returned : (run configuration units ()).outcome = .ok report)
    (unit output : CompilationUnit) (position place : ClassPosition) (member result : Member)
    (counterpart : Counterpart units report unit output position place member result)
    (kind : Kind.ofType member.declaredType ≠ .passThroughString)
    (use : AnnotationUse) (inside : use ∈ result.annotations)
    (added : ∀ old ∈ member.annotations, old.type.qualifiedName ≠ use.type.qualifiedName) :
    ∃ holder argument type,
      Holder.name? (Kind.ofType member.declaredType) = some holder ∧
      use.type.qualifiedName = configuration.valueHolder ++ "." ++ holder ∧
      use.arguments = some [argument] ∧
      argument.staticType? = some type ∧
      Holder.members.lookup holder = some type.spelled ∧
      ∃ found ∈ Occurrence.ofMember configuration unit.sourcePath position member,
        found.Takes configuration units report
          (Scan.batch configuration units (.starting .empty)).state.store type argument := by
  rw [counterpart.annotations_exact returned] at inside
  obtain ⟨found, ofMember, companion⟩ :=
    Relocation.companion_of_added _ _ _ _ _ use inside added
  obtain ⟨_, _, ofItsMember, _⟩ := Occurrence.mem_ofAnnotations _ _ _ _ _ _ _ ofMember
  have foundKind : found.kind = Kind.ofType member.declaredType := by
    rw [Occurrence.kind, ofItsMember]
  rw [← foundKind] at kind ⊢
  obtain ⟨value, _, made⟩ := Option.bind_eq_some_iff.mp companion
  obtain ⟨holder, held, written⟩ := Option.map_eq_some_iff.mp made
  obtain ⟨argument, arguments, cases⟩ := found.companion?_cases configuration _ use kind companion
  have stored : found.kind.isStored = true := by
    rw [Kind.stored_iff]
    refine ⟨?_, kind⟩
    intro unfit
    rw [unfit] at held
    cases held
  obtain ⟨type, typed⟩ := Kind.fieldType?_of_stored stored
  have takes : found.Takes configuration units report (scanned configuration units).store type
      argument := by
    rcases cases with ⟨analysis, analysed, inPlace⟩ | ⟨key, anchor, entry, keyed, known, rfl⟩
    · exact found.takes_inPlace analysis analysed inPlace typed
    · have refers := keyed.refers_typed known returned typed
      by_cases scalar : found.kind.isScalar = true
      · obtain ⟨keyword, rfl⟩ := Kind.fieldType?_of_scalar scalar typed
        exact .primitiveField keyword entry _ scalar refers
      · have container := found.kind.container_of_stored stored scalar
        rw [Kind.fieldType?_of_container container] at typed
        obtain rfl := Option.some.inj typed
        exact .arrayField entry _ container refers
  rw [scan_state returned]
  refine ⟨holder, argument, type, held, ?_, arguments, takes.typed,
    Kind.holder_declares typed held, found, ofMember, takes⟩
  rw [← written]
  rfl

/-- The set of a nested class takes a reference of the type of string arrays, to a field that was
recorded for the list of the class around it. -/
theorem companions_well_typed_across_kinds :
    ∃ (output : CompilationUnit) (place : ClassPosition) (result : Member) (use : AnnotationUse)
      (argument : Expression) (found : Occurrence) (entry : Entry),
      Counterpart [nestingClass] nestingReport nestingClass output nestingClass.positions[1]! place
        nestingClass.positions[1]!.declaration.body[0]! result ∧
      use ∈ result.annotations ∧ use.arguments = some [argument] ∧
      Holder.members.lookup "Set" = some "java.lang.String[]" ∧
      argument.staticType? = some .stringArray ∧ found.kind = .set ∧ entry.kind = .list ∧
      found.RefersTyped {} [nestingClass] nestingReport
        (Scan.batch {} [nestingClass] (.starting .empty)).state.store .stringArray entry
        argument := by
  let output := nestingReport.units[0]!
  let place := output.positions[1]!
  let result := place.declaration.body[0]!
  have counterpart : Counterpart [nestingClass] nestingReport nestingClass output
      nestingClass.positions[1]! place nestingClass.positions[1]!.declaration.body[0]! result :=
    ⟨by decide, by decide, [], place.declaration.body, by decide, by decide, by decide⟩
  obtain ⟨holder, argument, type, held, _, arguments, typed, declares, found, ofMember, takes⟩ :=
    companions_well_typed {} [nestingClass] nestingReport rfl nestingClass output _ place _ result
      counterpart (by decide) result.annotations[0]! (by decide) (by decide)
  obtain rfl := Option.some.inj held
  obtain rfl := List.mem_singleton.mp ofMember
  cases takes with
  | arrayField entry argument container refers =>
    refine ⟨output, place, result, _, argument, _, entry, counterpart, List.mem_cons_self,
      arguments, declares, typed, rfl, ?_, refers⟩
    obtain ⟨key, anchor, ⟨analysis, analysed, outcome⟩, known⟩ := refers.recorded
    obtain rfl := Except.ok.inj analysed
    obtain ⟨rfl, _⟩ := Outcome.keyed.inj outcome
    obtain rfl := Option.some.inj known
    rfl
  | literal keyword token scalar => cases scalar
  | strings token noted elements container written => cases written
  | primitiveField keyword entry argument scalar => cases scalar

end TypedDefaults
