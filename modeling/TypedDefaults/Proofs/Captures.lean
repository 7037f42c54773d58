import TypedDefaults.Proofs.FieldNames

/-!
# Anchors captured by fields

An anchor that is a bare name is looked up from the class of its field outwards.
A field is never named like a member of its class, of a class around it, or of a
class inside it, so a name that one of these classes declares is looked up as
before. A name that none of them declares, because it is inherited or imported,
may be that of another field: then the lookup ends at that field. The anchor is
captured exactly then, and only if its name is made like those of fields.
-/

namespace TypedDefaults

open Java Synthesis

/-- The first class of a chain that declares a field or method of the name. -/
def Java.declarer? (name : String) (chain : List ClassDeclaration) : Option ClassType :=
  (chain.find? fun declaration => declaration.declaredNames.contains name).map fun declaration =>
    declaration.header.type

/-- A field that a run has put into a class, or into one around it, has the name. -/
structure CapturedBy (units : List CompilationUnit) (report : RunReport)
    (unit output : CompilationUnit) (position : ClassPosition) (name : String)
    (home : ClassPosition) (other : FieldDeclaration) : Prop where
  synthesized : ∃ place, Synthesized units report unit output home place other
  around : home.chain <:+ position.chain
  named : other.name = name

/-- The lookup ends at the first class if it declares the name, and goes on outwards otherwise. -/
theorem Java.declarer?_cons (name : String) (declaration : ClassDeclaration)
    (around : List ClassDeclaration) :
    declarer? name (declaration :: around) =
      if name ∈ declaration.declaredNames then some declaration.header.type
      else declarer? name around := by
  by_cases declared : name ∈ declaration.declaredNames <;> simp [declarer?, declared]

/-- A name that no class of a chain declares is found in none. -/
theorem Java.declarer?_eq_none {name : String} {chain : List ClassDeclaration}
    (undeclared : ∀ declaration ∈ chain, name ∉ declaration.declaredNames) :
    declarer? name chain = none := by
  rw [declarer?, Option.map_eq_none_iff, List.find?_eq_none]
  intro declaration inside
  rw [List.contains_iff_mem]
  exact undeclared declaration inside

/-- Where the classes of a chain come to declare a name exactly if they did, the lookup of the name
ends at the same class. -/
theorem Java.declarer?_changedChain {change : ClassChange} (keeps : change.KeepsNesting)
    (name : String) (chain : List ClassDeclaration)
    (same : ∀ between declaration around, chain = between ++ declaration :: around →
      (name ∈ (ClassPosition.changed change ⟨declaration, around⟩).declaredNames ↔
        name ∈ declaration.declaredNames)) :
    declarer? name (changedChain change chain) = declarer? name chain := by
  induction chain with
  | nil => rfl
  | cons declaration around inductionHypothesis =>
    have further := inductionHypothesis fun between inner rest split =>
      same (declaration :: between) inner rest (by rw [split, List.cons_append])
    rw [changedChain, declarer?_cons, declarer?_cons, further, ClassPosition.header_changed keeps]
    simp only [same [] declaration around rfl]

/-- In a file that a run has migrated, a class declares a name exactly if it did or if it got a
field of the name. -/
theorem Apply.mem_declaredNames_changed (configuration : Configuration) (store : Store)
    (unit : CompilationUnit) (position : ClassPosition) (name : String) :
    name ∈ (position.changed (classChange configuration store unit)).declaredNames ↔
      (∃ field ∈ fieldsAt store unit position, field.name = name) ∨
        name ∈ position.declaration.declaredNames := by
  rw [(declaredNames_changed position).mem_iff, List.mem_append, List.mem_map]

section

variable {configuration : Configuration} {units : List CompilationUnit} {report : RunReport}
  {unit output : CompilationUnit} {position place : ClassPosition} {field : FieldDeclaration}

/-- A name that no field of a class or of one around it has is looked up as before. -/
theorem Synthesized.declarer?_kept
    (synthesized : Synthesized units report unit output position place field)
    (returned : (run configuration units ()).outcome = .ok report)
    (touched : configuration.touches unit = true) (name : String)
    (free : ¬∃ home other, CapturedBy units report unit output position name home other) :
    declarer? name place.chain = declarer? name position.chain := by
  obtain ⟨left, moved, _⟩ := synthesized.place_exact returned
  obtain ⟨listed, _⟩ := List.of_mem_zip synthesized.files
  obtain ⟨placed, _⟩ := List.of_mem_zip synthesized.classes
  rw [moved, ClassPosition.chain_moved]
  refine declarer?_changedChain (Apply.classChange_keepsNesting _ _ unit) name _ ?_
  intro between declaration around split
  rw [Apply.mem_declaredNames_changed]
  refine ⟨fun declared => ?_, .inr⟩
  rcases declared with ⟨other, among, named⟩ | before
  · obtain ⟨reached, _⟩ := unit.position_around _ placed _ _ _ split
    have second := Synthesized.of_fieldsAt returned listed touched reached among
    rw [← left] at second
    exact absurd ⟨_, other, ⟨_, second⟩, ⟨between, split.symm⟩, named⟩ free
  · exact before

/-- A name that a field of a class or of one around it has was declared by none of these classes,
and is looked up there now. -/
theorem CapturedBy.declarer? {name : String} {home : ClassPosition} {other : FieldDeclaration}
    (captured : CapturedBy units report unit output position name home other)
    (returned : (run configuration units ()).outcome = .ok report)
    (paths : (units.map CompilationUnit.sourcePath).Nodup) (named : unit.NamedApart)
    (placed : position ∈ unit.positions) :
    Java.declarer? name position.chain = none ∧
      Java.declarer? name (position.moved (Apply.classChange configuration
        (scanned configuration units).store unit)).chain = some home.type := by
  obtain ⟨⟨otherPlace, synthesized⟩, ⟨between, chain⟩, rfl⟩ := captured
  obtain ⟨entry, occurrence, key, anchor, kept, rfl, filled⟩ :=
    synthesized.entry_kept returned paths named
  rw [kept.name_field filled]
  have apart := kept.made.apart
  rw [ScanState.takenAt, List.mem_append, not_or] at apart
  obtain ⟨visible, nested⟩ := apart
  constructor
  · refine declarer?_eq_none fun declaration inside declared => ?_
    rw [← chain] at inside
    rcases List.mem_append.mp inside with within | outwards
    · obtain ⟨_, names⟩ := unit.position_around _ placed _ _ _ chain.symm
      exact nested (names declaration within _ declared)
    · exact visible (List.mem_flatMap.mpr ⟨declaration, outwards, declared⟩)
  · have inside : occurrence.position.declaration ∈ position.chain := by
      rw [← chain]
      exact List.mem_append_right _ List.mem_cons_self
    have sameName : occurrence.position.declaration.header.type.qualifiedName =
        entry.scope.qualifiedName := by
      rw [kept.made.scope]
      rfl
    rw [Java.declarer?, kept.reached_from named _ placed _ inside sameName, Option.map_some,
      ClassPosition.header_changed (Apply.classChange_keepsNesting _ _ unit)]
    rfl

end

/-- The name of a field is longer than the bare name that is its anchor. -/
theorem Entry.MadeFor.longer {configuration : Configuration} {entry : Entry}
    {occurrence : Occurrence} {key : Key} {anchor : Anchor} {base : String} {index : Nat}
    (made : entry.MadeFor configuration occurrence key anchor)
    (named : entry.NamedFrom occurrence anchor base index) (name : Identifier)
    (bare : entry.anchor = .identifier name) :
    name.name.toList.length < entry.fieldName.toList.length := by
  obtain ⟨analysis, analysed, outcome⟩ := made.keyed
  obtain ⟨stored, _⟩ := occurrence.analyse_keyed configuration analysis key anchor analysed outcome
  have written : anchor.expression = .identifier name := made.anchor.symm.trans bare
  have start : base = FieldName.baseOf name.name := by
    cases named.start with
    | numbered token type number => cases written
    | written anchor symbol known => rw [Anchor.text, written, Expression.print]
  obtain ⟨number, digits, _⟩ :=
    FieldName.numbered_toList (base ++ FieldName.ending occurrence.kind.storage) index
  obtain ⟨_, capital⟩ := FieldName.ending_parts _ (occurrence.kind.isStored_storage stored)
  have longer := FieldName.length_le_baseOf name.name
  have ending := List.length_pos_of_mem capital
  rw [named.name, digits, String.toList_append, List.length_append, List.length_append, start]
  omega

/-- A field whose anchor is a bare name has another name. The first class that declares the bare
name, from the class of the field outwards, is the same in the output as it was, and there is none
if there was none, exactly if no field that the run has put into these classes has the bare name.
If one has it, no class declared it before, it is found at that field, and it ends as the names of
fields do. -/
theorem anchors_captured_exactly (configuration : Configuration) (units : List CompilationUnit)
    (report : RunReport) (paths : (units.map CompilationUnit.sourcePath).Nodup)
    (named : ∀ unit ∈ units, unit.NamedApart)
    (returned : (run configuration units ()).outcome = .ok report)
    (unit output : CompilationUnit) (position place : ClassPosition) (field : FieldDeclaration)
    (synthesized : Synthesized units report unit output position place field) (key : Key)
    (entry : Entry)
    (stored :
      (key, entry) ∈ (Scan.batch configuration units (.starting .empty)).state.store.entries)
    (filled : entry.field unit.imports = .ok field) (name : Identifier)
    (bare : entry.anchor = .identifier name) :
    field.name ≠ name.name ∧
      (declarer? name.name place.chain = declarer? name.name position.chain ↔
        ¬∃ home other, CapturedBy units report unit output position name.name home other) ∧
      ∀ home other, CapturedBy units report unit output position name.name home other →
        declarer? name.name position.chain = none ∧
        declarer? name.name place.chain = some home.type ∧
        ∃ base kind index, kind.isStored = true ∧
          name.name = FieldName.numbered (base ++ FieldName.ending kind) index := by
  rw [scan_state returned] at stored
  have apart := named unit (List.of_mem_zip synthesized.files).1
  have placed := (List.of_mem_zip synthesized.classes).1
  obtain ⟨left, moved, _⟩ := synthesized.place_exact returned
  have found : ∀ home other,
      CapturedBy units report unit output position name.name home other →
        declarer? name.name position.chain = none ∧
          declarer? name.name place.chain = some home.type := by
    intro home other captured
    rw [moved]
    exact captured.declarer? returned paths apart placed
  refine ⟨?_, ⟨?_, ?_⟩, ?_⟩
  · obtain ⟨occurrence, _, anchor, base, index, made, namedFrom⟩ := Entry.named_from stored
    obtain ⟨_, _, _, _, _, again⟩ := made.field_exact unit.imports
    have longer := made.longer namedFrom name bare
    intro same
    rw [Except.ok.inj (filled.symm.trans again)] at same
    rw [← same] at longer
    exact Nat.lt_irrefl _ longer
  · rintro same ⟨home, other, captured⟩
    obtain ⟨before, after⟩ := found home other captured
    rw [before, after] at same
    cases same
  · intro free
    obtain ⟨_, occurrence, _, _, kept, _⟩ := synthesized.entry_kept returned paths apart
    exact synthesized.declarer?_kept returned
      (Occurrence.touches_of_mem_ofUnit configuration unit occurrence kept.here) name.name free
  · intro home other captured
    obtain ⟨before, after⟩ := found home other captured
    obtain ⟨_, second⟩ := captured.synthesized
    obtain ⟨entry, _, _, _, kept, _, otherFilled⟩ := second.entry_kept returned paths apart
    obtain ⟨occurrence, _, _, base, index, made, namedFrom⟩ := Entry.named_from kept.stored
    obtain ⟨analysis, analysed, outcome⟩ := made.keyed
    obtain ⟨kindStored, _⟩ := occurrence.analyse_keyed _ analysis _ _ analysed outcome
    refine ⟨before, after, base, occurrence.kind.storage, index,
      occurrence.kind.isStored_storage kindStored, ?_⟩
    rw [← namedFrom.name, ← kept.name_field otherFilled, captured.named]

/-- The name of a constant that a class inherits. -/
def inheritedConstant (constant : String) : Identifier :=
  ⟨constant, some ⟨some (.topLevel "p.Base"), constant, none⟩, none⟩

/-- A field whose default is an inherited constant. -/
def inheritedDefault (name : String) (type : JavaType) (constant : String) : Member :=
  .field {
    name := name
    type := some type
    modifiers := []
    annotations := [{
      type := .topLevel "x.y.z.Property"
      name := "Property"
      arguments := some [.assignment ⟨"defaultValue", none, none⟩
        (.identifier (inheritedConstant constant))] }]
    initializer := none }

/-- A class with two inherited constants, one of which has the name of the field for the other. -/
def inheritingClass : CompilationUnit :=
  singleClass [inheritedDefault "a" (.primitive "boolean") "x",
    inheritedDefault "b" (.primitive "int") "xAsBoolean"]

/-- The first of two inherited constants is found outside the class in the output as it was: its
name is not made like that of a field. -/
theorem anchors_captured_exactly_inherited :
    ∃ output place field,
      Synthesized [inheritingClass] (reported {} [inheritingClass]) inheritingClass output
        inheritingClass.positions[0]! place field ∧
      field.name = "xAsBoolean" ∧
      declarer? "x" place.chain = declarer? "x" inheritingClass.positions[0]!.chain := by
  let report := reported {} [inheritingClass]
  let output := report.units[0]!
  let position := inheritingClass.positions[0]!
  let place := output.positions[0]!
  let fields := Apply.fieldsAt (scanned {} [inheritingClass]).store inheritingClass position
  have synthesized : Synthesized [inheritingClass] report inheritingClass output position place
      fields[0]! :=
    ⟨by decide, by decide, fields, place.declaration.body.take 2, by decide, by decide, by decide⟩
  obtain ⟨⟨key, entry⟩, stored, filled, bare⟩ : ∃ stored : Key × Entry,
      stored ∈ (Scan.batch {} [inheritingClass] (.starting .empty)).state.store.entries ∧
        stored.2.field inheritingClass.imports = .ok fields[0]! ∧
        stored.2.anchor = .identifier (inheritedConstant "x") :=
    ⟨(scanned {} [inheritingClass]).store.entries[0]!, by decide, rfl, rfl⟩
  obtain ⟨_, exactly, captured⟩ := anchors_captured_exactly {} [inheritingClass] report (by decide)
    (by decide) rfl inheritingClass output position place _ synthesized key entry stored filled _
    bare
  refine ⟨output, place, _, synthesized, by decide, exactly.mpr ?_⟩
  rintro ⟨home, other, capturing⟩
  obtain ⟨_, _, base, kind, index, kindStored, made⟩ := captured home other capturing
  obtain ⟨number, written, _⟩ := FieldName.numbered_toList (base ++ FieldName.ending kind) index
  obtain ⟨_, capital⟩ := FieldName.ending_parts kind kindStored
  have inside : 'A' ∈ (FieldName.numbered (base ++ FieldName.ending kind) index).toList := by
    rw [written, String.toList_append]
    exact List.mem_append_left _ (List.mem_append_right _ capital)
  rw [← made] at inside
  exact absurd inside (by decide)

/-- The second of two inherited constants was found outside the class. In the output its name is
that of the field for the first one. -/
theorem inherited_anchor_captured :
    ([inheritingClass].map CompilationUnit.sourcePath).Nodup ∧ inheritingClass.NamedApart ∧
      ∃ report output position place field entry name,
        (run {} [inheritingClass] ()).outcome = .ok report ∧
        Synthesized [inheritingClass] report inheritingClass output position place field ∧
        entry ∈ (scanned {} [inheritingClass]).store.entries.map Prod.snd ∧
        entry.field inheritingClass.imports = .ok field ∧ entry.anchor = .identifier name ∧
        declarer? name.name position.chain = none ∧
        declarer? name.name place.chain = some (.topLevel "p.M") := by
  let report := reported {} [inheritingClass]
  let output := report.units[0]!
  let position := inheritingClass.positions[0]!
  let place := output.positions[0]!
  let fields := Apply.fieldsAt (scanned {} [inheritingClass]).store inheritingClass position
  have synthesized : Synthesized [inheritingClass] report inheritingClass output position place
      fields[1]! :=
    ⟨by decide, by decide, fields, place.declaration.body.take 2, by decide, by decide, by decide⟩
  exact ⟨by decide, by decide, report, output, position, place, _,
    ((scanned {} [inheritingClass]).store.entries.map Prod.snd)[1]!, _, rfl, synthesized,
    by decide, rfl, rfl, by decide, by decide⟩

end TypedDefaults
