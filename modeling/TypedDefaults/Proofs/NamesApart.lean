import TypedDefaults.Proofs.References

/-!
# Names of synthesized fields

A field is named when the first occurrence under its key is scanned, against the
file as it was given; fields for other occurrences come later. In the file that
a run leaves, the name is still that of the field alone: what the classes around
and inside had declared was avoided, and what they got besides has other names,
since a name is given out once for a file. So no entry is suppressed by a member
that is there already.
-/

namespace TypedDefaults

open Java Synthesis

/-- A field that a run has put into a class. The other members of the class stand for those that it
had. -/
structure Synthesized (units : List CompilationUnit) (report : RunReport)
    (unit output : CompilationUnit) (position place : ClassPosition) (field : FieldDeclaration) :
    Prop where
  files : (unit, output) ∈ units.zip report.units
  classes : (position, place) ∈ unit.positions.zip output.positions
  added : ∃ fields kept, kept.length = position.declaration.body.length ∧
    place.declaration.body = insertFields fields kept ∧ field ∈ fields

/-- A field has its name alone: no other member of its class has it, and none of a class around it
or inside it, at any depth. -/
structure NamedAlone (output : CompilationUnit) (place : ClassPosition) (field : FieldDeclaration) :
    Prop where
  own : place.declaration.body.filter (Member.declares field.name) = [.field field]
  around : ∀ outer ∈ place.enclosing, field.name ∉ outer.declaredNames
  inside : ∀ inner ∈ output.positions, place.chain <:+ inner.enclosing →
    field.name ∉ inner.declaration.declaredNames

/-- A class of a changed chain was one of the chain, with the classes behind it around it. -/
theorem mem_changedChain (change : ClassChange) (chain : List ClassDeclaration)
    (outer : ClassDeclaration) (inside : outer ∈ changedChain change chain) :
    ∃ between declaration around, chain = between ++ declaration :: around ∧
      outer = ClassPosition.changed change ⟨declaration, around⟩ := by
  induction chain with
  | nil => cases inside
  | cons first rest inductionHypothesis =>
    rcases List.mem_cons.mp inside with rfl | later
    · exact ⟨[], first, rest, rfl, rfl⟩
    · obtain ⟨between, declaration, around, split, same⟩ := inductionHypothesis later
      exact ⟨first :: between, declaration, around, by rw [split, List.cons_append], same⟩

/-- What a changed chain ends in is what the chain ends in, changed. -/
theorem suffix_changedChain (change : ClassChange) (chain ending : List ClassDeclaration)
    (suffix : ending <:+ changedChain change chain) :
    ∃ between around, chain = between ++ around ∧ ending = changedChain change around := by
  induction chain with
  | nil => exact ⟨[], [], rfl, List.suffix_nil.mp suffix⟩
  | cons first rest inductionHypothesis =>
    rw [changedChain, List.suffix_cons_iff] at suffix
    rcases suffix with rfl | shorter
    · exact ⟨[], first :: rest, rfl, rfl⟩
    · obtain ⟨between, around, split, same⟩ := inductionHypothesis shorter
      exact ⟨first :: between, around, by rw [split, List.cons_append], same⟩

namespace Entry.Kept

variable {configuration : Configuration} {units : List CompilationUnit} {unit : CompilationUnit}
  {entry : Entry} {occurrence : Occurrence} {key : Key} {anchor : Anchor}

/-- No class around the class of an entry comes to declare the name of the field. -/
theorem quiet_around (kept : entry.Kept configuration units unit occurrence key anchor)
    (named : unit.NamedApart) (outer : ClassDeclaration)
    (inside : outer ∈ (occurrence.position.moved (Apply.classChange configuration
      (scanned configuration units).store unit)).enclosing) :
    entry.fieldName ∉ outer.declaredNames := by
  obtain ⟨between, declaration, around, split, rfl⟩ := mem_changedChain _ _ outer inside
  have chain : occurrence.position.chain =
      (occurrence.position.declaration :: between) ++ declaration :: around := by
    rw [ClassPosition.chain, split, List.cons_append]
  have placed := (Occurrence.file_of_mem_ofUnit kept.here).2
  obtain ⟨reached, _⟩ := unit.position_around _ placed _ _ _ chain
  refine kept.only_home named _ reached ?_ ?_
  · intro same
    have length := congrArg (fun position => position.enclosing.length) same
    simp only [split, List.length_append, List.length_cons] at length
    omega
  · intro declared
    apply kept.made.apart
    rw [ScanState.takenAt, List.mem_append]
    left
    rw [ClassPosition.visibleNames, List.mem_flatMap]
    refine ⟨declaration, ?_, declared⟩
    rw [chain]
    exact List.mem_append_right _ List.mem_cons_self

/-- No class inside the class of an entry comes to declare the name of the field.

The classes around the inner one, as the run leaves them, end in the class of the entry and those
around it. A class has its name alone, so the classes around the inner one ended in it before. -/
theorem quiet_inside (kept : entry.Kept configuration units unit occurrence key anchor)
    (named : unit.NamedApart) (inner : ClassPosition) (placed : inner ∈ unit.positions)
    (deeper : (occurrence.position.moved (Apply.classChange configuration
        (scanned configuration units).store unit)).chain <:+
      (inner.moved (Apply.classChange configuration (scanned configuration units).store
        unit)).enclosing) :
    entry.fieldName ∉ (inner.changed (Apply.classChange configuration
      (scanned configuration units).store unit)).declaredNames := by
  obtain ⟨between, reaching, split, same⟩ := suffix_changedChain _ _ _ deeper
  cases reaching with
  | nil => cases same
  | cons declaration around =>
    have header : occurrence.position.declaration.header = declaration.header := by
      have keeps := Apply.classChange_keepsNesting configuration
        (scanned configuration units).store unit
      rw [← ClassPosition.header_changed keeps occurrence.position,
        ← ClassPosition.header_changed keeps ⟨declaration, around⟩]
      exact congrArg ClassDeclaration.header (List.cons.inj same).1
    have chain : inner.chain = (inner.declaration :: between) ++ declaration :: around := by
      rw [ClassPosition.chain, split, List.cons_append]
    obtain ⟨reached, _⟩ := unit.position_around inner placed _ _ _ chain
    have atHome : ClassPosition.mk declaration around = occurrence.position := by
      apply position_of_name named reached (Occurrence.file_of_mem_ofUnit kept.here).2
      rw [ClassPosition.type, ClassPosition.type, header]
    have enclosing : inner.enclosing = between ++ occurrence.position.chain := by
      rw [split, ← atHome]
      rfl
    have outward : inner.chain = (inner.declaration :: between) ++ occurrence.position.chain := by
      rw [ClassPosition.chain, enclosing, List.cons_append]
    have quiet := kept.quiet_between named inner placed _ outward [] inner.declaration between rfl
    rwa [← enclosing] at quiet

/-- The field of an entry has its name alone in the migrated file. -/
theorem named_alone (kept : entry.Kept configuration units unit occurrence key anchor)
    (named : unit.NamedApart) :
    ∃ field, entry.field unit.imports = .ok field ∧ field.name = entry.fieldName ∧
      NamedAlone (Apply.migrated configuration (scanned configuration units).store unit)
        (occurrence.position.moved
          (Apply.classChange configuration (scanned configuration units).store unit)) field := by
  obtain ⟨field, filled, name, _⟩ := kept.field_added
  obtain ⟨_, again, only⟩ := kept.only_member
  obtain rfl := Except.ok.inj (filled.symm.trans again)
  rw [← name] at only
  refine ⟨field, filled, name, only, ?_, ?_⟩
  · intro outer inside
    rw [name]
    exact kept.quiet_around named outer inside
  · intro inner reached deeper
    rw [Apply.positions_migrated] at reached
    obtain ⟨before, placed, rfl⟩ := List.mem_map.mp reached
    rw [name]
    exact kept.quiet_inside named before placed deeper

/-- Entries of a file whose fields have one name are one entry, and their fields are for one
class. -/
theorem eq_of_name {other : Entry} {otherOccurrence : Occurrence} {otherKey : Key}
    {otherAnchor : Anchor} (kept : entry.Kept configuration units unit occurrence key anchor)
    (otherKept : other.Kept configuration units unit otherOccurrence otherKey otherAnchor)
    (named : unit.NamedApart) (sameName : other.fieldName = entry.fieldName) :
    other = entry ∧ otherOccurrence.position = occurrence.position := by
  obtain ⟨file, placed⟩ := Occurrence.file_of_mem_ofUnit kept.here
  obtain ⟨otherFile, otherPlaced⟩ := Occurrence.file_of_mem_ofUnit otherKept.here
  have sameFile : otherKey.file = key.file := by
    rw [otherKept.made.keyed.file, kept.made.keyed.file, otherFile, file]
  obtain ⟨_, rfl⟩ := Prod.mk.inj (stored_of_name otherKept.stored kept.stored sameFile sameName)
  have sameScope : otherOccurrence.scope = occurrence.scope :=
    otherKept.made.scope.symm.trans kept.made.scope
  exact ⟨rfl, position_of_name named otherPlaced placed
    (congrArg ClassType.qualifiedName sameScope)⟩

end Entry.Kept

namespace Synthesized

variable {configuration : Configuration} {units : List CompilationUnit} {report : RunReport}
  {unit output : CompilationUnit} {position place : ClassPosition} {field : FieldDeclaration}

/-- A synthesized field stands in a migrated file, and is one of those that its class was to
get. -/
theorem place_exact (synthesized : Synthesized units report unit output position place field)
    (returned : (run configuration units ()).outcome = .ok report) :
    output = Apply.migrated configuration (scanned configuration units).store unit ∧
      place = position.moved
        (Apply.classChange configuration (scanned configuration units).store unit) ∧
      field ∈ Apply.fieldsAt (scanned configuration units).store unit position := by
  obtain ⟨fields, kept, length, body, among⟩ := synthesized.added
  have classes := synthesized.classes
  have left := run_output returned synthesized.files
  by_cases touched : configuration.touches unit = true
  · rw [if_pos touched] at left
    rw [left, Apply.positions_migrated] at classes
    have moved := eq_of_mem_zip_map _ _ _ _ classes
    refine ⟨left, moved, ?_⟩
    rw [moved, ClassPosition.moved, Apply.body_changed] at body
    have members := insertFields_injective _ _ _ _ (by rw [List.length_map, length]) body
    rw [members] at body
    rw [insertFields_cancel _ _ _ body]
    exact among
  · -- In a file that is left there is no room for a field beside the members that it had.
    rw [if_neg touched] at left
    rw [left] at classes
    have still : place = position :=
      eq_of_mem_zip_map id _ _ _ (by rwa [List.map_id])
    have lengths := congrArg List.length body
    rw [still, (insertFields_perm fields kept).length_eq, List.length_append, List.length_map,
      length] at lengths
    have none : fields = [] := List.length_eq_zero_iff.mp (by omega)
    rw [none] at among
    cases among

/-- A field that a class is to get is synthesized in it. -/
theorem of_fieldsAt (returned : (run configuration units ()).outcome = .ok report)
    (listed : unit ∈ units) (touched : configuration.touches unit = true)
    (placed : position ∈ unit.positions)
    (among : field ∈ Apply.fieldsAt (scanned configuration units).store unit position) :
    Synthesized units report unit
      (Apply.migrated configuration (scanned configuration units).store unit) position
      (position.moved (Apply.classChange configuration (scanned configuration units).store unit))
      field where
  files := by
    have files := mem_zip_map (fun unit => if configuration.touches unit then
      Apply.migrated configuration (scanned configuration units).store unit else unit) units unit
      listed
    rwa [← run_units returned, if_pos touched] at files
  classes := by
    rw [Apply.positions_migrated]
    exact mem_zip_map _ _ _ placed
  added := ⟨_, _, List.length_map _, Apply.body_changed position, among⟩

/-- A synthesized field is that of an entry, kept for an occurrence in its class. -/
theorem entry_kept (synthesized : Synthesized units report unit output position place field)
    (returned : (run configuration units ()).outcome = .ok report)
    (paths : (units.map CompilationUnit.sourcePath).Nodup) (named : unit.NamedApart) :
    ∃ (entry : Entry) (occurrence : Occurrence) (key : Key) (anchor : Anchor),
      entry.Kept configuration units unit occurrence key anchor ∧
        occurrence.position = position ∧ entry.field unit.imports = .ok field := by
  obtain ⟨_, _, among⟩ := synthesized.place_exact returned
  obtain ⟨entry, due, filled⟩ := (mem_made_iff ..).mp among
  obtain ⟨⟨key, stored, file⟩, scope, _⟩ := (mem_due_iff ..).mp due
  obtain ⟨occurrence, anchor, kept⟩ :=
    Entry.kept_of_stored paths (List.of_mem_zip synthesized.files).1 stored file
  refine ⟨entry, occurrence, key, anchor, kept, ?_, filled⟩
  apply position_of_name named (Occurrence.file_of_mem_ofUnit kept.here).2
    (List.of_mem_zip synthesized.classes).1
  rw [kept.made.scope] at scope
  exact scope

/-- A synthesized field has its name alone. -/
theorem named_alone (synthesized : Synthesized units report unit output position place field)
    (returned : (run configuration units ()).outcome = .ok report)
    (paths : (units.map CompilationUnit.sourcePath).Nodup) (named : unit.NamedApart) :
    NamedAlone output place field := by
  obtain ⟨left, moved, _⟩ := synthesized.place_exact returned
  obtain ⟨entry, occurrence, _, _, kept, rfl, filled⟩ := synthesized.entry_kept returned paths named
  obtain ⟨_, again, _, alone⟩ := kept.named_alone named
  obtain rfl := Except.ok.inj (filled.symm.trans again)
  rwa [left, moved]

/-- Synthesized fields of a file that have one name are one field. -/
theorem eq_of_name {otherPosition otherPlace : ClassPosition} {other : FieldDeclaration}
    (synthesized : Synthesized units report unit output position place field)
    (second : Synthesized units report unit output otherPosition otherPlace other)
    (returned : (run configuration units ()).outcome = .ok report)
    (paths : (units.map CompilationUnit.sourcePath).Nodup) (named : unit.NamedApart)
    (sameName : other.name = field.name) : otherPlace = place ∧ other = field := by
  obtain ⟨_, moved, _⟩ := synthesized.place_exact returned
  obtain ⟨_, otherMoved, _⟩ := second.place_exact returned
  obtain ⟨entry, occurrence, _, _, kept, rfl, filled⟩ := synthesized.entry_kept returned paths named
  obtain ⟨otherEntry, _, _, _, otherKept, rfl, otherFilled⟩ :=
    second.entry_kept returned paths named
  have sameField : otherEntry.fieldName = entry.fieldName := by
    rw [← kept.name_field filled, ← otherKept.name_field otherFilled, sameName]
  obtain ⟨rfl, sameClass⟩ := kept.eq_of_name otherKept named sameField
  refine ⟨?_, Except.ok.inj (otherFilled.symm.trans filled)⟩
  rw [otherMoved, sameClass, moved]

end Synthesized

/-- An entry that is kept becomes a field of the class of its occurrence. -/
theorem Entry.Kept.synthesized {configuration : Configuration} {units : List CompilationUnit}
    {report : RunReport} {unit : CompilationUnit} {entry : Entry} {occurrence : Occurrence}
    {key : Key} {anchor : Anchor}
    (kept : entry.Kept configuration units unit occurrence key anchor) (listed : unit ∈ units)
    (returned : (run configuration units ()).outcome = .ok report) :
    ∃ output place field,
      Synthesized units report unit output occurrence.position place field ∧
        place.type.qualifiedName = entry.scope.qualifiedName ∧ field.name = entry.fieldName ∧
        entry.field unit.imports = .ok field := by
  have touched := Occurrence.touches_of_mem_ofUnit configuration unit occurrence kept.here
  have placed := (Occurrence.file_of_mem_ofUnit kept.here).2
  obtain ⟨field, filled, name, among⟩ := kept.field_added
  refine ⟨_, _, field, Synthesized.of_fieldsAt returned listed touched placed among, ?_, name,
    filled⟩
  rw [kept.made.scope]
  rfl

/-- The scan of a run that returns leaves the fold over the occurrences of the batch. -/
theorem scan_state {configuration : Configuration} {units : List CompilationUnit}
    {report : RunReport} (returned : (run configuration units ()).outcome = .ok report) :
    (Scan.batch configuration units (.starting .empty)).state = scanned configuration units := by
  obtain ⟨analysable, _, _⟩ := (run_returns_iff configuration units report).mp returned
  have completes := (Scan.completes_batch configuration units (.starting .empty) _).mpr
    ⟨analysable, rfl⟩
  exact completes.1

/-- Where files have paths of their own and classes their names, each synthesized field has its name
alone, among the members of its class, of the classes around it and of those inside it, and among
the synthesized fields of its file. So every entry that the scan has stored becomes a field of the
class for which it was stored.

The field of an entry is in the class of the occurrence for which the entry was made. Its name is
none of those that were taken there, and none that was given out for the file before or after. -/
theorem synthesized_names_apart (configuration : Configuration) (units : List CompilationUnit)
    (report : RunReport) (paths : (units.map CompilationUnit.sourcePath).Nodup)
    (named : ∀ unit ∈ units, unit.NamedApart)
    (returned : (run configuration units ()).outcome = .ok report) :
    (∀ unit output position place field,
      Synthesized units report unit output position place field →
        NamedAlone output place field ∧
        ∀ otherPosition otherPlace other,
          Synthesized units report unit output otherPosition otherPlace other →
            other.name = field.name → otherPlace = place ∧ other = field) ∧
      ∀ stored ∈ (Scan.batch configuration units (.starting .empty)).state.store.entries,
        ∃ unit output position place field,
          Synthesized units report unit output position place field ∧
            unit.sourcePath = stored.1.file ∧
            place.type.qualifiedName = stored.2.scope.qualifiedName ∧
            field.name = stored.2.fieldName ∧ stored.2.field unit.imports = .ok field := by
  constructor
  · intro unit output position place field synthesized
    have apart := named unit (List.of_mem_zip synthesized.files).1
    refine ⟨synthesized.named_alone returned paths apart, ?_⟩
    intro otherPosition otherPlace other second sameName
    exact synthesized.eq_of_name second returned paths apart sameName
  · rw [scan_state returned]
    rintro ⟨key, entry⟩ stored
    obtain ⟨occurrence, seen, anchor, made⟩ := (scanned_records configuration units).made _ stored
    obtain ⟨unit, listed, here⟩ := List.mem_flatMap.mp seen
    have kept : entry.Kept configuration units unit occurrence key anchor := ⟨stored, here, made⟩
    obtain ⟨output, place, field, synthesized, scope, name, filled⟩ :=
      kept.synthesized listed returned
    have file : unit.sourcePath = key.file := by
      rw [made.keyed.file, (Occurrence.file_of_mem_ofUnit here).1]
    exact ⟨unit, output, _, place, field, synthesized, file, scope, name, filled⟩

/-- A class with a list of constants. It has a member with the name that the field would get, and a
class inside it has one with the next name. -/
def crowdedClass : CompilationUnit :=
  let plain : String → Member := fun name => .field ⟨name, none, [], [], none⟩
  singleClass
    [annotatedField (.generic (.topLevel "java.util.List") [.string])
      (constantBehind "A" (some (.topLevel "p.A"))),
     plain "a__xAsArray",
     .nested ⟨"N", ⟨"p.M.N", ["p.M"]⟩, [], []⟩ [plain "a__xAsArray1"]]

/-- The field in a class where the name that it would get and the next one are taken has the name
after these, and has it alone. -/
theorem synthesized_names_apart_crowded :
    ∃ report output place field, (run {} [crowdedClass] ()).outcome = .ok report ∧
      report.entries = 1 ∧ field.name = "a__xAsArray2" ∧ NamedAlone output place field := by
  let report := reported {} [crowdedClass]
  let output := report.units[0]!
  let place := output.positions[0]!
  let fields := Apply.fieldsAt (scanned {} [crowdedClass]).store crowdedClass
    crowdedClass.positions[0]!
  have synthesized : Synthesized [crowdedClass] report crowdedClass output
      crowdedClass.positions[0]! place fields[0]! :=
    ⟨by decide, by decide, fields, place.declaration.body.eraseIdx 2, by decide, by decide,
      by decide⟩
  obtain ⟨apart, _⟩ :=
    synthesized_names_apart {} [crowdedClass] report (by decide) (by decide) rfl
  exact ⟨report, output, place, _, rfl, by decide, by decide, (apart _ _ _ _ _ synthesized).1⟩

end TypedDefaults
