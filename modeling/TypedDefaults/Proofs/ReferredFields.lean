import TypedDefaults.Proofs.CompanionTypes
import TypedDefaults.Proofs.Conservation
import TypedDefaults.Proofs.FirstOccurrences
import TypedDefaults.Proofs.Preservation

/-!
# Fields that companions refer to

The scan stores an entry for an occurrence before it is known whether the
companion of the occurrence will be attached. A member that has an annotation of
the companion's type gets none, and of the companions of one member only the
first is attached. So a run may leave a field to which no companion refers. It
does so exactly where none of the occurrences that seek the entry of the field
has its companion attached.
-/

namespace TypedDefaults

open Java Synthesis

/-- The symbol is the member of a name in a class. -/
def Java.Symbol.isMember (symbol : Symbol) (owner : ClassType) (name : String) : Bool :=
  symbol.name = name && symbol.owner.any fun scope => scope.qualifiedName = owner.qualifiedName

/-- An argument of the annotation is the name of a field of a class, bare or behind a qualifier. -/
def Java.AnnotationUse.refersTo (use : AnnotationUse) (owner : ClassType)
    (field : FieldDeclaration) : Bool :=
  (use.arguments.getD []).any fun argument => argument.referred?.any fun name =>
    name.name = field.name && name.symbol.any fun symbol => symbol.isMember owner field.name

/-- An annotation with the reference to the field of an entry refers to the fields of that name in
the class of the entry. -/
theorem Entry.refersTo_iff (entry : Entry) (scope : Option ClassType) (use : AnnotationUse)
    (arguments : use.arguments = some [entry.reference scope]) (owner : ClassType)
    (field : FieldDeclaration) :
    use.refersTo owner field = true ↔
      entry.fieldName = field.name ∧ entry.scope.qualifiedName = owner.qualifiedName := by
  obtain ⟨_, named, _⟩ := entry.reference_typed scope
  simp only [AnnotationUse.refersTo, arguments, Option.getD_some, List.any_cons, List.any_nil,
    Bool.or_false, named, Option.any_some, Entry.fieldIdentifier, Symbol.isMember,
    Bool.and_eq_true, decide_eq_true_eq]
  constructor
  · rintro ⟨name, _, scope⟩
    exact ⟨name, scope⟩
  · rintro ⟨name, scope⟩
    exact ⟨name, name, scope⟩

/-- The companion of an occurrence is the one that its member gets: the member has no annotation of
its type, and the occurrences of the member ahead of this one are skipped. -/
structure Occurrence.Attaches (configuration : Configuration) (found : Occurrence) : Prop where
  free : ∀ holder, Holder.name? found.kind = some holder → ∀ old ∈ found.member.annotations,
    old.type.qualifiedName ≠ configuration.valueHolder ++ "." ++ holder
  first : ∃ ahead behind,
    ofMember configuration found.file found.position found.member = ahead ++ found :: behind ∧
      ∀ earlier ∈ ahead, earlier.Skipped configuration

/-- An occurrence that is analysed, and is of a kind other than that of strings, has no companion
exactly if it is skipped. -/
theorem Occurrence.companion?_eq_none_iff (configuration : Configuration) (store : Store)
    (found : Occurrence) (analysable : found.Analysable configuration)
    (kind : found.kind ≠ .passThroughString)
    (stored : ∀ key anchor, found.Keyed configuration key anchor →
      ∃ entry, store.get? key = some entry) :
    found.companion? configuration store = none ↔ found.Skipped configuration := by
  constructor
  · intro absent
    by_contra taken
    obtain ⟨_, use, _, companion, _⟩ :=
      found.companion?_exists configuration store analysable taken kind stored
    cases absent.symm.trans companion
  · intro skipped
    apply Relocation.companion?_of_still
    rw [found.due_of_skipped store skipped]
    rfl

/-- The companion of an occurrence is of the holder for the kind of the member. -/
theorem Occurrence.type_companion? {configuration : Configuration} {store : Store}
    {found : Occurrence} {use : AnnotationUse}
    (companion : found.companion? configuration store = some use) :
    ∃ holder, Holder.name? found.kind = some holder ∧
      use.type.qualifiedName = configuration.valueHolder ++ "." ++ holder := by
  obtain ⟨_, _, made⟩ := Option.bind_eq_some_iff.mp companion
  obtain ⟨holder, held, rfl⟩ := Option.map_eq_some_iff.mp made
  exact ⟨holder, held, rfl⟩

namespace Relocation

variable {configuration : Configuration} {store : Store} {file : String}
  {position : ClassPosition} {member : Member} {use : AnnotationUse}

/-- An annotation of a type that the member did not have is there in the end exactly if it is the
first of the companions of the member.

All companions of a member are of one type. So the first is attached if its type is not there, and
then keeps the others away. -/
theorem mem_relocatedUses_iff_head?
    (new : ∀ old ∈ member.annotations, old.type.qualifiedName ≠ use.type.qualifiedName) :
    use ∈ relocatedUses configuration store file position member ↔
      (companionsOf configuration store file position member).head? = some use := by
  have stripped :=
    strippedUses_lack configuration store file position member use.type.qualifiedName new
  have notStripped : use ∉ strippedUses configuration store file position member :=
    fun inside => stripped use inside rfl
  have alike := companionsOf_alike configuration store file position member
  rw [relocatedUses]
  cases companions : companionsOf configuration store file position member with
  | nil => simpa using notStripped
  | cons first rest =>
    rw [companions] at alike
    have sameType : ∀ later ∈ rest, first.type.qualifiedName = later.type.qualifiedName :=
      fun later inside => alike first later List.mem_cons_self (List.mem_cons_of_mem _ inside)
    rw [List.foldl_cons, List.head?_cons, Option.some.injEq, attachUse]
    split
    · rename_i there
      obtain ⟨present, inside, same⟩ := List.any_eq_true.mp there
      rw [foldl_attachUse_present rest _ present inside fun later among =>
        (of_decide_eq_true same).trans (sameType later among)]
      refine iff_of_false notStripped ?_
      rintro rfl
      exact stripped present inside (of_decide_eq_true same)
    · have attached := insertUse_perm first
        (strippedUses configuration store file position member)
      rw [foldl_attachUse_present rest _ first (attached.mem_iff.mpr List.mem_cons_self) sameType,
        attached.mem_iff, List.mem_cons, or_iff_left notStripped, eq_comm]

/-- An annotation of a type that the member did not have is there in the end exactly if it is the
companion of an occurrence of the member, and those ahead of that one have none. -/
theorem mem_relocatedUses_iff_first
    (new : ∀ old ∈ member.annotations, old.type.qualifiedName ≠ use.type.qualifiedName) :
    use ∈ relocatedUses configuration store file position member ↔
      ∃ ahead found behind,
        Occurrence.ofMember configuration file position member = ahead ++ found :: behind ∧
          found.companion? configuration store = some use ∧
          ∀ earlier ∈ ahead, earlier.companion? configuration store = none := by
  rw [mem_relocatedUses_iff_head? new, companionsOf, List.head?_filterMap,
    List.findSome?_eq_some_iff]

end Relocation

/-- A companion that a run has added to a member of a file, strings apart. -/
structure AddedCompanion (units : List CompilationUnit) (report : RunReport)
    (unit output : CompilationUnit) (position place : ClassPosition) (member result : Member)
    (use : AnnotationUse) : Prop where
  counterpart : Counterpart units report unit output position place member result
  kind : Kind.ofType member.declaredType ≠ .passThroughString
  inside : use ∈ result.annotations
  new : ∀ old ∈ member.annotations, old.type.qualifiedName ≠ use.type.qualifiedName

section

variable {configuration : Configuration} {units : List CompilationUnit} {report : RunReport}
  {unit output : CompilationUnit}

/-- In a run that returns, an occurrence that is no string has no companion exactly if it is
skipped. -/
theorem companion?_eq_none_iff_of_returned
    (returned : (run configuration units ()).outcome = .ok report) (listed : unit ∈ units)
    {found : Occurrence} (here : found ∈ Occurrence.ofUnit configuration unit)
    (kind : found.kind ≠ .passThroughString) :
    found.companion? configuration (scanned configuration units).store = none ↔
      found.Skipped configuration := by
  obtain ⟨analysable, _, _⟩ := (run_returns_iff configuration units report).mp returned
  have seen : found ∈ Occurrence.ofBatch configuration units :=
    List.mem_flatMap.mpr ⟨unit, listed, here⟩
  exact found.companion?_eq_none_iff configuration _ (analysable found seen) kind
    ((scanned_records configuration units).complete found seen)

/-- A companion that a run has added is that of an occurrence that has it attached. -/
theorem AddedCompanion.attached {position place : ClassPosition} {member result : Member}
    {use : AnnotationUse}
    (added : AddedCompanion units report unit output position place member result use)
    (returned : (run configuration units ()).outcome = .ok report) :
    ∃ found ∈ Occurrence.ofUnit configuration unit, found.Attaches configuration ∧
      found.kind ≠ .passThroughString ∧
      found.companion? configuration (scanned configuration units).store = some use := by
  have listed : unit ∈ units := (List.of_mem_zip added.counterpart.files).1
  have inside := added.inside
  rw [added.counterpart.annotations_exact returned,
    Relocation.mem_relocatedUses_iff_first added.new] at inside
  obtain ⟨ahead, found, behind, split, companion, others⟩ := inside
  have ofItsMember : ∀ other ∈ ahead ++ found :: behind,
      other ∈ Occurrence.ofUnit configuration unit ∧ other.file = unit.sourcePath ∧
        other.position = position ∧ other.member = member := by
    intro other among
    rw [← split] at among
    obtain ⟨file, atPosition, ofMember, _⟩ := Occurrence.mem_ofAnnotations _ _ _ _ _ _ _ among
    exact ⟨added.counterpart.mem_ofUnit among, file, atPosition, ofMember⟩
  have kinds : ∀ other ∈ ahead ++ found :: behind, other.kind ≠ .passThroughString := by
    intro other among
    rw [Occurrence.kind, (ofItsMember other among).2.2.2]
    exact added.kind
  have among : found ∈ ahead ++ found :: behind :=
    List.mem_append_right _ List.mem_cons_self
  obtain ⟨here, file, atPosition, ofMember⟩ := ofItsMember found among
  refine ⟨found, here, ⟨?_, ahead, behind, ?_, ?_⟩, kinds found among, companion⟩
  · intro holder held old annotated
    obtain ⟨other, again, type⟩ := Occurrence.type_companion? companion
    obtain rfl := Option.some.inj (held.symm.trans again)
    rw [← type]
    exact added.new old (ofMember ▸ annotated)
  · rw [file, atPosition, ofMember, split]
  · intro earlier before
    have among : earlier ∈ ahead ++ found :: behind := List.mem_append_left _ before
    exact (companion?_eq_none_iff_of_returned returned listed (ofItsMember earlier among).1
      (kinds earlier among)).mp (others earlier before)

/-- An occurrence with a key is not skipped. -/
theorem Occurrence.Keyed.not_skipped {found : Occurrence} {key : Key} {anchor : Anchor}
    (keyed : found.Keyed configuration key anchor) : ¬found.Skipped configuration := by
  rintro ⟨_, _, reason, skipped⟩
  cases keyed.outcome skipped

/-- The companion of an occurrence that has it attached is added. -/
theorem Occurrence.Attaches.added {found : Occurrence} {use : AnnotationUse}
    (attaches : found.Attaches configuration)
    (returned : (run configuration units ()).outcome = .ok report)
    (files : (unit, output) ∈ units.zip report.units)
    (here : found ∈ Occurrence.ofUnit configuration unit)
    (kind : found.kind ≠ .passThroughString)
    (companion : found.companion? configuration (scanned configuration units).store = some use) :
    ∃ place result,
      AddedCompanion units report unit output found.position place found.member result use := by
  have listed : unit ∈ units := (List.of_mem_zip files).1
  obtain ⟨position, placed, member, declared, inside⟩ := (Occurrence.mem_ofUnit_iff ..).mp here
  obtain ⟨file, rfl, rfl, _⟩ := Occurrence.mem_ofAnnotations _ _ _ _ _ _ _ inside
  obtain ⟨left, place, result, counterpart⟩ := Counterpart.of_member returned listed placed declared
  obtain rfl : left = output :=
    (run_output returned counterpart.files).trans (run_output returned files).symm
  have new : ∀ old ∈ found.member.annotations,
      old.type.qualifiedName ≠ use.type.qualifiedName := by
    obtain ⟨holder, held, type⟩ := Occurrence.type_companion? companion
    rw [type]
    exact attaches.free holder held
  refine ⟨place, result, counterpart, kind, ?_, new⟩
  obtain ⟨ahead, behind, split, skipped⟩ := attaches.first
  rw [file] at split
  rw [counterpart.annotations_exact returned, Relocation.mem_relocatedUses_iff_first new]
  refine ⟨ahead, found, behind, split, companion, fun earlier before => ?_⟩
  apply Relocation.companion?_of_still
  rw [earlier.due_of_skipped _ (skipped earlier before)]
  rfl

variable {key : Key} {entry : Entry}

/-- An added companion that refers to the field of an entry is that of an occurrence which seeks the
entry, and has its companion attached. -/
theorem AddedCompanion.sought {position place home : ClassPosition} {member result : Member}
    {use : AnnotationUse} {field : FieldDeclaration}
    (added : AddedCompanion units report unit output position place member result use)
    (returned : (run configuration units ()).outcome = .ok report)
    (stored : (key, entry) ∈ (scanned configuration units).store.entries)
    (file : key.file = unit.sourcePath) (name : field.name = entry.fieldName)
    (refers : use.refersTo home.type field = true) :
    ∃ found ∈ Occurrence.ofUnit configuration unit, found.Seeks configuration key ∧
      found.Attaches configuration := by
  obtain ⟨found, here, attaches, kind, companion⟩ := added.attached returned
  refine ⟨found, here, ?_, attaches⟩
  obtain ⟨value, arguments, cases⟩ := found.companion?_cases configuration _ use kind companion
  rcases cases with ⟨analysis, analysed, inPlace⟩ | ⟨own, anchor, other, keyed, answered, rfl⟩
  · have nothing := found.inPlace_refers_to_nothing configuration analysis value analysed inPlace
    simp [AnnotationUse.refersTo, arguments, nothing] at refers
  · obtain ⟨otherName, _⟩ := (other.refersTo_iff _ use arguments home.type field).mp refers
    obtain ⟨otherKey, otherStored, same⟩ := Store.mem_of_get? _ own other answered
    have sameFile : otherKey.file = key.file := by
      rw [← otherKey.file_identity, same, own.file_identity, keyed.file, file]
      exact (Occurrence.file_of_mem_ofUnit here).1
    obtain ⟨rfl, rfl⟩ := Prod.mk.inj
      (stored_of_name otherStored stored sameFile (otherName.trans name))
    exact ⟨own, anchor, keyed, same.symm⟩

/-- The companion of an occurrence that seeks an entry, and has its companion attached, is added and
refers to the field of the entry. -/
theorem Occurrence.Seeks.referred {found : Occurrence} {home : ClassPosition}
    {field : FieldDeclaration} (seeks : found.Seeks configuration key)
    (attaches : found.Attaches configuration)
    (returned : (run configuration units ()).outcome = .ok report)
    (files : (unit, output) ∈ units.zip report.units)
    (here : found ∈ Occurrence.ofUnit configuration unit)
    (stored : (key, entry) ∈ (scanned configuration units).store.entries)
    (name : field.name = entry.fieldName)
    (scope : entry.scope.qualifiedName = home.type.qualifiedName) :
    ∃ position place member result use,
      AddedCompanion units report unit output position place member result use ∧
        use.refersTo home.type field = true := by
  obtain ⟨own, anchor, keyed, same⟩ := seeks
  have answered : (scanned configuration units).store.get? own = some entry := by
    rw [Store.get?_congr _ same]
    exact get?_of_stored stored
  obtain ⟨use, companion⟩ : ∃ use,
      found.companion? configuration (scanned configuration units).store = some use := by
    rw [← Option.ne_none_iff_exists']
    intro absent
    exact keyed.not_skipped ((companion?_eq_none_iff_of_returned returned
      (List.of_mem_zip files).1 here keyed.no_string).mp absent)
  obtain ⟨place, result, added⟩ :=
    attaches.added returned files here keyed.no_string companion
  refine ⟨_, place, _, result, use, added, ?_⟩
  rw [entry.refersTo_iff _ use (keyed.companion_refers answered companion)]
  exact ⟨name.symm, scope⟩

end

/-- Where files have paths of their own, a field that a run synthesizes is that of an entry which
the scan has stored, and which an occurrence of the file seeks. A companion that is added in the
file refers to the field exactly if such an occurrence has its companion attached: its member has no
annotation of the companion's type, and the occurrences of the member ahead of it are skipped. -/
theorem fields_referred_exactly (configuration : Configuration) (units : List CompilationUnit)
    (report : RunReport) (paths : (units.map CompilationUnit.sourcePath).Nodup)
    (returned : (run configuration units ()).outcome = .ok report)
    (unit output : CompilationUnit) (position place : ClassPosition) (field : FieldDeclaration)
    (synthesized : Synthesized units report unit output position place field) :
    ∃ key entry,
      (key, entry) ∈ (Scan.batch configuration units (.starting .empty)).state.store.entries ∧
      key.file = unit.sourcePath ∧ entry.field unit.imports = .ok field ∧
      entry.scope.qualifiedName = place.type.qualifiedName ∧
      (∃ found ∈ Occurrence.ofUnit configuration unit, found.Seeks configuration key) ∧
      ((∃ around home member result use,
          AddedCompanion units report unit output around home member result use ∧
            use.refersTo place.type field = true) ↔
        ∃ found ∈ Occurrence.ofUnit configuration unit, found.Seeks configuration key ∧
          found.Attaches configuration) := by
  obtain ⟨_, moved, among⟩ := synthesized.place_exact returned
  obtain ⟨entry, due, filled⟩ := (mem_made_iff ..).mp among
  obtain ⟨⟨key, stored, file⟩, scope, _⟩ := (mem_due_iff ..).mp due
  obtain ⟨occurrence, anchor, kept⟩ :=
    Entry.kept_of_stored paths (List.of_mem_zip synthesized.files).1 stored file
  have name := kept.name_field filled
  have sameClass : entry.scope.qualifiedName = place.type.qualifiedName := by
    rw [moved]
    exact scope
  rw [scan_state returned]
  refine ⟨key, entry, stored, file, filled, sameClass,
    ⟨occurrence, kept.here, key, anchor, kept.made.keyed, rfl⟩, ?_, ?_⟩
  · rintro ⟨_, _, _, _, _, added, refers⟩
    exact added.sought returned stored file name refers
  · rintro ⟨found, here, seeks, attaches⟩
    exact seeks.referred attaches returned synthesized.files here stored name sameClass

/-- In the class with a list of constants and a class inside it, the companion of the list has the
field as its argument. -/
theorem fields_referred_exactly_nested :
    ∃ output place field around home member result use,
      Synthesized [nestingClass] nestingReport nestingClass output nestingClass.positions[0]! place
        field ∧
      field.name = "a__xAsArray" ∧
      AddedCompanion [nestingClass] nestingReport nestingClass output around home member result
        use ∧
      use.refersTo place.type field = true := by
  let output := nestingReport.units[0]!
  let position := nestingClass.positions[0]!
  let place := output.positions[0]!
  let fields := Apply.fieldsAt (scanned {} [nestingClass]).store nestingClass position
  let found := (Occurrence.ofUnit {} nestingClass)[0]!
  have synthesized : Synthesized [nestingClass] nestingReport nestingClass output position place
      fields[0]! :=
    ⟨by decide, by decide, fields, place.declaration.body.eraseIdx 1, by decide, by decide,
      by decide⟩
  obtain ⟨key, entry, stored, _, _, _, _, exactly⟩ := fields_referred_exactly {} [nestingClass]
    nestingReport (by decide) rfl nestingClass output position place _ synthesized
  obtain ⟨rfl, rfl⟩ := Prod.mk.inj (List.mem_singleton.mp stored)
  have attaches : found.Attaches {} :=
    ⟨by intro holder held; cases held; decide, [], [], rfl, by simp⟩
  obtain ⟨around, home, member, result, use, added, refers⟩ :=
    exactly.mpr ⟨found, List.mem_cons_self, ⟨_, _, ⟨_, rfl, rfl⟩, rfl⟩, attaches⟩
  exact ⟨output, place, _, around, home, member, result, use, synthesized, by decide, added,
    refers⟩

/-- A class with a number whose default is a constant, beside an annotation of the type that its
companion would have. -/
def annotatedAlready : CompilationUnit :=
  let number := annotatedField (.primitive "int") (constantBehind "A" (some (.topLevel "p.A")))
  let there := companion {} .int (.literal "1" (some (.primitive "int")))
  singleClass [number.withAnnotations (there.toList ++ number.annotations)]

/-- Beside an annotation of the type that the companion would have, the field is made all the same,
and no annotation in the output refers to it. -/
theorem field_without_companion :
    ([annotatedAlready].map CompilationUnit.sourcePath).Nodup ∧
      ∃ report output position place field, (run {} [annotatedAlready] ()).outcome = .ok report ∧
        Synthesized [annotatedAlready] report annotatedAlready output position place field ∧
        ∀ around ∈ output.positions, ∀ member ∈ around.declaration.body,
          ∀ use ∈ member.annotations, use.refersTo place.type field = false := by
  let report := reported {} [annotatedAlready]
  let output := report.units[0]!
  let position := annotatedAlready.positions[0]!
  let place := output.positions[0]!
  let fields := Apply.fieldsAt (scanned {} [annotatedAlready]).store annotatedAlready position
  have synthesized : Synthesized [annotatedAlready] report annotatedAlready output position place
      fields[0]! :=
    ⟨by decide, by decide, fields, place.declaration.body.eraseIdx 1, by decide, by decide,
      by decide⟩
  exact ⟨by decide, report, output, position, place, _, rfl, synthesized, by decide⟩

end TypedDefaults
