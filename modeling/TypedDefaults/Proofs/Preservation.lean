import TypedDefaults.Proofs.Evaluation
import TypedDefaults.Proofs.Repetition

/-!
# Preserved defaults

The default value of a member survives a run: the counterpart of the member has
one companion for its kind, and the argument of the companion stands for the
value that the occurrence stood for. It does so under every environment and
library, in whatever class the field has been made and for whatever occurrence.
-/

namespace TypedDefaults

open Java Synthesis

/-- The occurrences of a member are told apart by the places of their annotations. -/
theorem Occurrence.ofAnnotations_nodup (configuration : Configuration) (file : String)
    (position : ClassPosition) (member : Member) (index : Nat) (uses : List AnnotationUse) :
    (∀ found ∈ ofAnnotations configuration file position member index uses,
        index ≤ found.annotationIndex) ∧
      (ofAnnotations configuration file position member index uses).Nodup := by
  induction uses generalizing index with
  | nil => simp [ofAnnotations]
  | cons use rest inductionHypothesis =>
    obtain ⟨bounded, distinct⟩ := inductionHypothesis (index + 1)
    have here : ∀ found, ofAnnotationUse? configuration file position member index use =
        some found → found.annotationIndex = index := by
      intro found assigned
      obtain ⟨_, _, _, _, rfl⟩ := ofAnnotationUse?_exact assigned
      rfl
    rw [ofAnnotations]
    constructor
    · intro found inside
      rcases List.mem_append.mp inside with first | later
      · have := here found (Option.mem_toList.mp first)
        omega
      · have := bounded found later
        omega
    · rw [List.nodup_append]
      refine ⟨?_, distinct, ?_⟩
      · cases ofAnnotationUse? configuration file position member index use with
        | none => exact List.nodup_nil
        | some found => exact List.nodup_singleton found
      · rintro found first other later rfl
        have := here found (Option.mem_toList.mp first)
        have := bounded found later
        omega

/-- A list in which one element alone gives something gives just that. -/
theorem filterMap_of_alone {α β : Type} (give : α → Option β) (list : List α) (part : α)
    (given : β) (distinct : list.Nodup) (inside : part ∈ list) (gives : give part = some given)
    (alone : ∀ other ∈ list, other ≠ part → give other = none) :
    list.filterMap give = [given] := by
  obtain ⟨front, back, rfl⟩ := List.append_of_mem inside
  rw [List.nodup_middle, List.nodup_cons, List.mem_append, not_or] at distinct
  obtain ⟨⟨notBefore, notBehind⟩, _⟩ := distinct
  have before : front.filterMap give = [] :=
    List.filterMap_eq_nil_iff.mpr fun other found =>
      alone other (List.mem_append_left _ found) fun same => notBefore (same ▸ found)
  have behind : back.filterMap give = [] :=
    List.filterMap_eq_nil_iff.mpr fun other found =>
      alone other (List.mem_append_right _ (List.mem_cons_of_mem _ found)) fun same =>
        notBehind (same ▸ found)
  rw [List.filterMap_append, List.filterMap_cons, gives, before, behind, List.nil_append]

/-- A member with one occurrence that is not skipped gets one annotation of the companion's type, if
it had none. -/
theorem Relocation.only_companion (configuration : Configuration) (store : Store) (file : String)
    (position : ClassPosition) (member : Member) (found : Occurrence)
    (inside : found ∈ Occurrence.ofMember configuration file position member)
    (alone : ∀ other ∈ Occurrence.ofMember configuration file position member,
      other ≠ found → other.Skipped configuration)
    (use : AnnotationUse) (companion : found.companion? configuration store = some use)
    (free : ∀ old ∈ member.annotations, old.type.qualifiedName ≠ use.type.qualifiedName) :
    (relocatedUses configuration store file position member).filter
      (fun other => other.type.qualifiedName = use.type.qualifiedName) = [use] := by
  have companions : companionsOf configuration store file position member = [use] := by
    refine filterMap_of_alone _ _ found use
      (Occurrence.ofAnnotations_nodup _ _ _ _ _ _).2 inside companion ?_
    intro other listed different
    apply companion?_of_still
    rw [other.due_of_skipped store (alone other listed different)]
    rfl
  have stripped :=
    strippedUses_lack configuration store file position member use.type.qualifiedName free
  rw [relocatedUses, companions, List.foldl_cons, List.foldl_nil, attachUse, if_neg]
  · refine List.perm_singleton.mp (((insertUse_perm use _).filter _).trans ?_)
    rw [List.filter_cons_of_pos (by simp), List.filter_eq_nil_iff.mpr]
    intro old listed
    simpa using stripped old listed
  · rw [List.any_eq_true]
    rintro ⟨old, listed, same⟩
    exact stripped old listed (of_decide_eq_true same)

/-- A field that is found as the only one of its name, in the only class of its name, is looked
up. -/
theorem LeadsToField.looked_up {output : CompilationUnit} {place : ClassPosition}
    {reference : Expression} {name : Identifier} {owner : ClassType} {home : ClassPosition}
    {field : FieldDeclaration}
    (leads : LeadsToField output place reference name owner home field) :
    output.fieldOf? owner name.name = some field := by
  have classes : output.positions.find? (fun position =>
      position.type.qualifiedName = owner.qualifiedName) = some home := by
    rw [← List.head?_filter, leads.classes]
    rfl
  have members : home.declaration.body.find? (Member.declares name.name) = some (.field field) := by
    rw [← List.head?_filter, leads.members]
    rfl
  rw [CompilationUnit.fieldOf?, classes]
  simp only [members]

section

variable {α : Type} {library : Library α} {environment : Environment}
  {configuration : Configuration} {units : List CompilationUnit} {unit : CompilationUnit}

/-- A value put in place is the one that the occurrence stands for. -/
theorem value_inPlace (output : CompilationUnit) (found : Occurrence) (analysis : Analysis)
    (argument : Expression) (analysed : found.analyse configuration = .ok analysis)
    (inPlace : analysis.outcome = .inPlace argument) :
    ∃ value, output.valueOf? library environment argument = some value ∧
      found.meaning? library environment = some value := by
  cases found.analyse_finds configuration analysis analysed with
  | converted token type literal scalar written conversion =>
    obtain rfl := Outcome.inPlace.inj inPlace
    obtain ⟨source, _, rfl, _⟩ := Literal.convert_literal found.kind token literal conversion
    refine ⟨.constant source, rfl, ?_⟩
    simp [Occurrence.meaning?, written, Anchor.ofExpression?, scalar, conversion]
  | listed token type container written inline =>
    obtain rfl := Outcome.inPlace.inj inPlace
    refine ⟨_, valueOf?_toArray library environment output token, ?_⟩
    have notScalar : found.kind.isScalar = false := by
      simp [Kind.isScalar, container]
    have converts := found.kind.valueOf?_storage library (Literal.unquote token)
    rw [found.kind.storage_of_container container] at converts
    simp only [Occurrence.meaning?, written, Anchor.ofExpression?, notScalar, Anchor.textIn]
    rw [if_neg Bool.false_ne_true, ← converts]
    rfl
  | _ => cases inPlace

/-- A key is given to occurrences that stand for the value of the string behind their anchor. -/
theorem meaning_of_keyed (found : Occurrence) (key : Key) (anchor : Anchor)
    (keyed : found.Keyed configuration key anchor) :
    found.meaning? library environment =
      found.kind.valueOf? library (anchor.textIn environment) := by
  obtain ⟨analysis, analysed, outcome⟩ := keyed
  obtain ⟨_, anchored, ⟨token, type, container, rfl, _⟩ | ⟨symbol, named, _⟩⟩ :=
    found.analyse_keyed configuration analysis key anchor analysed outcome
  · have notScalar : found.kind.isScalar = false := by
      simp [Kind.isScalar, container]
    simp [Occurrence.meaning?, anchored, notScalar]
  · cases anchor with
    | literal token type => cases named
    | _ => simp [Occurrence.meaning?, anchored]

/-- A stored kind has a value for every string. -/
theorem valueOf?_stored (library : Library α) (kind : Kind) (text : String)
    (stored : kind.isStored = true) :
    ∃ value, kind.valueOf? library text = some value := by
  cases kind with
  | passThroughString => cases stored
  | unsupported => cases stored
  | list | array | set =>
    exact ⟨.strings (Literal.splitAtCommas text), by rw [Kind.valueOf?, split_comma]; rfl⟩
  | _ => exact ⟨_, rfl⟩

/-- A reference that leads to the field of an entry stands for the value of each occurrence whose
key finds the entry.

The entry was made for an occurrence with a key of the same identity, so the same string is behind
both anchors, and the field converts it in the way of their common storage. -/
theorem value_of_reference (library : Library α) (environment : Environment)
    (found first : Occurrence) (key firstKey : Key) (anchor firstAnchor : Anchor) (entry : Entry)
    (keyed : found.Keyed configuration key anchor)
    (kept : entry.Kept configuration units unit first firstKey firstAnchor)
    (shared : firstKey.identity = key.identity) (output : CompilationUnit)
    (place home : ClassPosition) (reference : Expression) (field : FieldDeclaration)
    (filled : entry.field unit.imports = .ok field)
    (leads : LeadsToField output place reference entry.fieldIdentifier entry.scope home field) :
    ∃ value, output.valueOfField? library environment entry.fieldIdentifier = some value ∧
      found.meaning? library environment = some value := by
  obtain ⟨text, storage⟩ := text_of_shared_key environment configuration first found firstKey key
    firstAnchor anchor kept.made.keyed keyed shared
  obtain ⟨_, analysed, outcome⟩ := kept.made.keyed
  obtain ⟨stored, anchored, _⟩ :=
    first.analyse_keyed configuration _ firstKey firstAnchor analysed outcome
  obtain ⟨type, conversion, written, parts, writes, made⟩ := kept.made.field_exact unit.imports
  obtain rfl := Except.ok.inj (made.symm.trans filled)
  have reads := textIn?_written environment first.value firstAnchor written anchored writes
  have converts := convertedIn?_build library environment first.kind type conversion parts written
    _ reads
  have same : first.kind.valueOf? library (firstAnchor.textIn environment) =
      found.kind.valueOf? library (anchor.textIn environment) := by
    rw [text, ← Kind.valueOf?_storage library first.kind, storage, Kind.valueOf?_storage]
  obtain ⟨value, known⟩ :=
    valueOf?_stored library first.kind (firstAnchor.textIn environment) stored
  refine ⟨value, ?_, ?_⟩
  · have lookedUp := leads.looked_up
    simp only [Entry.fieldIdentifier] at lookedUp
    simp [CompilationUnit.valueOfField?, Entry.fieldIdentifier, lookedUp, converts, known]
  · rw [meaning_of_keyed found key anchor keyed, ← same, known]

end

/-- An occurrence that is not skipped, strings apart, gets a companion of the holder for its
kind. -/
theorem Occurrence.companion?_exists (configuration : Configuration) (store : Store)
    (found : Occurrence) (analysable : found.Analysable configuration)
    (taken : ¬found.Skipped configuration) (kind : found.kind ≠ .passThroughString)
    (stored : ∀ key anchor, found.Keyed configuration key anchor →
      ∃ entry, store.get? key = some entry) :
    ∃ holder use, Holder.name? found.kind = some holder ∧
      found.companion? configuration store = some use ∧
      use.type.qualifiedName = configuration.valueHolder ++ "." ++ holder := by
  obtain ⟨⟨analysedKind, anchor, outcome⟩, analysed⟩ := analysable
  have supported : found.kind ≠ .unsupported := by
    intro unsupported
    apply taken
    refine ⟨found.kind, none, .unsupportedKind, ?_⟩
    rw [analyse_eq, if_pos unsupported]
  obtain ⟨holder, held⟩ : ∃ holder, Holder.name? found.kind = some holder := by
    cases same : found.kind with
    | unsupported => exact absurd same supported
    | _ => exact ⟨_, rfl⟩
  obtain ⟨value, due⟩ : ∃ value, (found.due configuration store).value? = some value := by
    rw [due, analysed]
    cases outcome with
    | skipped reason => exact absurd ⟨analysedKind, anchor, reason, analysed⟩ taken
    | passedThrough =>
      cases found.analyse_finds configuration _ analysed with
      | passed string => exact absurd string kind
    | inPlace value => exact ⟨value, rfl⟩
    | keyed key keyedAnchor =>
      obtain ⟨entry, answered⟩ := stored key keyedAnchor ⟨_, analysed, rfl⟩
      exact ⟨entry.reference (some found.scope), by
        simp [Due.ofAnalysis, answered, Due.value?]⟩
  have made : ∃ use, companion configuration found.kind value = some use ∧
      use.type.qualifiedName = configuration.valueHolder ++ "." ++ holder := by
    rw [companion, held]
    exact ⟨_, rfl, rfl⟩
  obtain ⟨use, companion, type⟩ := made
  refine ⟨holder, use, held, ?_, type⟩
  rw [companion?, due]
  exact companion

/-- Default values are preserved. Where files have paths of their own, and classes of a file names
of their own and types nested like their declarations, let an occurrence of a kind other than that
of strings be the only one of its member that is not skipped, and let the member have no annotation
of the holder for the kind. Then a run that returns leaves the member's counterpart with exactly one
such annotation, and under every environment and library the argument of it stands in the output for
the value that the occurrence stood for.

The companion is the only one that is attached to the member. Its argument is a value put in place,
or a reference that leads to the field of an entry whose key is that of the occurrence. -/
theorem defaults_preserved {α : Type} (library : Library α) (environment : Environment)
    (configuration : Configuration) (units : List CompilationUnit) (report : RunReport)
    (paths : (units.map CompilationUnit.sourcePath).Nodup)
    (named : ∀ unit ∈ units, unit.NamedApart) (nested : ∀ unit ∈ units, unit.WellNested)
    (returned : (run configuration units ()).outcome = .ok report)
    (unit : CompilationUnit) (listed : unit ∈ units) (position : ClassPosition)
    (placed : position ∈ unit.positions) (member : Member)
    (declared : member ∈ position.declaration.body) (found : Occurrence)
    (inside : found ∈ Occurrence.ofMember configuration unit.sourcePath position member)
    (kind : found.kind ≠ .passThroughString) (taken : ¬found.Skipped configuration)
    (alone : ∀ other ∈ Occurrence.ofMember configuration unit.sourcePath position member,
      other ≠ found → other.Skipped configuration)
    (free : ∀ holder, Holder.name? found.kind = some holder → ∀ use ∈ member.annotations,
      use.type.qualifiedName ≠ configuration.valueHolder ++ "." ++ holder) :
    ∃ holder output place result use argument value,
      Holder.name? found.kind = some holder ∧
      Counterpart units report unit output position place member result ∧
      result.annotations.filter (fun other =>
        other.type.qualifiedName = configuration.valueHolder ++ "." ++ holder) = [use] ∧
      use.arguments = some [argument] ∧
      output.valueOf? library environment argument = some value ∧
      found.meaning? library environment = some value := by
  obtain ⟨output, place, result, counterpart⟩ :=
    Counterpart.of_member returned listed placed declared
  have ofUnit : found ∈ Occurrence.ofUnit configuration unit :=
    (Occurrence.mem_ofUnit_iff ..).mpr ⟨position, placed, member, declared, inside⟩
  have inBatch : found ∈ Occurrence.ofBatch configuration units :=
    List.mem_flatMap.mpr ⟨unit, listed, ofUnit⟩
  have analysable := ((run_returns_iff configuration units report).mp returned).1 found inBatch
  obtain ⟨holder, use, held, companion, type⟩ := found.companion?_exists configuration
    (scanned configuration units).store analysable taken kind
    ((scanned_records configuration units).complete found inBatch)
  have only := Relocation.only_companion configuration (scanned configuration units).store
    unit.sourcePath position member found inside alone use companion
    (type ▸ free holder held)
  rw [← counterpart.annotations_exact returned, type] at only
  obtain ⟨argument, arguments, cases⟩ :=
    found.companion?_cases configuration _ use kind companion
  suffices value : ∃ value, output.valueOf? library environment argument = some value ∧
      found.meaning? library environment = some value by
    obtain ⟨value, stands, meant⟩ := value
    exact ⟨holder, output, place, result, use, argument, value, held, counterpart, only, arguments,
      stands, meant⟩
  rcases cases with ⟨analysis, analysed, inPlace⟩ | ⟨key, anchor, entry, keyed, stored, rfl⟩
  · exact value_inPlace output found analysis argument analysed inPlace
  · obtain ⟨_, first, firstKey, firstAnchor, again, kept, shared⟩ :=
      keyed.entry_kept paths listed ofUnit
    obtain rfl := Option.some.inj (stored.symm.trans again)
    obtain ⟨field, filled, leads⟩ :=
      kept.reference_leads (named unit listed) (nested unit listed) position placed
    have touched := Occurrence.touches_of_mem_ofUnit configuration unit found ofUnit
    have migrated := counterpart.output_exact returned
    rw [if_pos touched] at migrated
    rw [migrated]
    have stands := value_of_reference library environment found first key firstKey anchor
      firstAnchor entry keyed kept shared _ _ _ _ field filled leads
    have argument : ∀ scope, (Apply.migrated configuration (scanned configuration units).store
        unit).valueOf? library environment (entry.reference scope) =
          (Apply.migrated configuration (scanned configuration units).store unit).valueOfField?
            library environment entry.fieldIdentifier := by
      intro scope
      rw [Entry.reference]
      split <;> rfl
    rwa [argument]

/-- A library that writes down what it is asked for. -/
def writtenLibrary : Library String where
  parse owner method text := owner ++ "." ++ method ++ "(" ++ text ++ ")"
  charAt text index := text ++ ".charAt(" ++ index ++ ")"

/-- Where the constant is a list of two, the set in the nested class has the two by default, by way
of the field of the class around it. -/
theorem defaults_preserved_in_nested :
    ∃ holder output place result use argument,
      Counterpart [nestingClass] nestingReport nestingClass output nestingClass.positions[1]! place
        nestingClass.positions[1]!.declaration.body[0]! result ∧
      result.annotations.filter (fun other =>
        other.type.qualifiedName = "x.y.z.DefaultValue" ++ "." ++ holder) = [use] ∧
      use.arguments = some [argument] ∧
      output.valueOf? writtenLibrary (fun _ _ => "a,b") argument = some (.strings ["a", "b"]) := by
  let position := nestingClass.positions[1]!
  let member := position.declaration.body[0]!
  let found := (Occurrence.ofMember {} "M.java" position member)[0]!
  have taken : ¬found.Skipped {} := by
    rintro ⟨kind, anchor, reason, analysed⟩
    have keyed : found.analyse {} = .ok ⟨.set, _, .keyed _ _⟩ := rfl
    rw [keyed] at analysed
    cases analysed
  obtain ⟨holder, output, place, result, use, argument, value, _, counterpart, only, arguments,
      stands, meant⟩ :=
    defaults_preserved writtenLibrary (fun _ _ => "a,b") {} [nestingClass] nestingReport
      (by decide) (by decide) (by decide) rfl nestingClass List.mem_cons_self position (by decide)
      member (by decide) found List.mem_cons_self (by decide) taken
      (fun other listed different => absurd (List.mem_singleton.mp listed) different)
      (by intro holder held; cases held; decide)
  obtain rfl : Value.strings ["a", "b"] = value := Option.some.inj (Eq.trans rfl meant)
  exact ⟨holder, output, place, result, use, argument, counterpart, only, arguments, stands⟩

end TypedDefaults
