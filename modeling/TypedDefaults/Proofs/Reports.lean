import TypedDefaults.Proofs.Conservation
import TypedDefaults.Proofs.HolderUsage
import TypedDefaults.Proofs.Interleaving
import TypedDefaults.Proofs.NamesApart

/-!
# Reports and trees

What a run reports of a file is counted while the file is rebuilt, and that the
file has changed is told by whether the rebuilding gave a new one. The entries
are counted by the scan. Here both are compared with the files: an assignment of
the attribute is gone for each value that was relocated, a field is declared for
each entry, and a file is a new one exactly if a value was relocated. Values that
a companion takes over are not assignments of the attribute, since a companion of
the type of the holder is never attached.
-/

namespace TypedDefaults

open Java Synthesis

/-- The number of assignments of the migrated attribute in an annotation. Only the attribute holder
has any. -/
def Java.AnnotationUse.assignments (configuration : Configuration) (use : AnnotationUse) : Nat :=
  if use.type.qualifiedName = configuration.attributeHolder then
    (use.arguments.getD []).countP (Expression.assigns configuration.attributeName)
  else 0

/-- The number of assignments of the migrated attribute in a file. -/
def Java.CompilationUnit.assignments (configuration : Configuration) (unit : CompilationUnit) :
    Nat :=
  (unit.annotations.map (AnnotationUse.assignments configuration)).sum

namespace Relocation

variable {configuration : Configuration} {store : Store}

/-- Taking the first assignment out leaves one less. -/
theorem assignments_withoutArgument (use : AnnotationUse) (place : Nat) (value : Expression)
    (holder : use.type.qualifiedName = configuration.attributeHolder)
    (assigned : use.assigned? configuration.attributeName = some (place, value)) :
    use.assignments configuration = (use.withoutArgument place).assignments configuration + 1 := by
  obtain ⟨front, target, back, arguments, named, _, gone⟩ :=
    use.withoutArgument_assigned configuration.attributeName place value assigned
  have assigns : (Expression.assignment target value).assigns configuration.attributeName = true :=
    decide_eq_true named
  rw [gone, AnnotationUse.assignments, AnnotationUse.assignments, if_pos holder, if_pos holder,
    arguments, Option.getD_some, Option.getD_some, List.countP_append, List.countP_append,
    List.countP_cons_of_pos assigns, Nat.add_assoc]

/-- An annotation loses one assignment if its value moves. -/
theorem assignments_strippedUse (file : String) (position : ClassPosition) (member : Member)
    (use : AnnotationUse) :
    use.assignments configuration =
      (strippedUse configuration store file position member use).assignments configuration +
        if (Occurrence.ofAnnotationUse? configuration file position member 0 use).any
          (fun found => (found.due configuration store).moves) then 1 else 0 := by
  rw [strippedUse]
  cases here : Occurrence.ofAnnotationUse? configuration file position member 0 use with
  | none => rfl
  | some found =>
    obtain ⟨holder, place, value, assigned, rfl⟩ := Occurrence.ofAnnotationUse?_exact here
    rw [Option.map_some, Option.getD_some, Option.any_some, Occurrence.stripped]
    split
    · exact assignments_withoutArgument use place value holder assigned
    · rfl

/-- Beside an annotation of the holder, nothing is attached that assigns the attribute. -/
theorem assignments_attached (new uses : List AnnotationUse)
    (held : ∃ use ∈ uses, use.type.qualifiedName = configuration.attributeHolder) :
    ((new.foldl attachUse uses).map (AnnotationUse.assignments configuration)).sum =
      (uses.map (AnnotationUse.assignments configuration)).sum := by
  induction new generalizing uses with
  | nil => rfl
  | cons first rest inductionHypothesis =>
    rw [List.foldl_cons, attachUse]
    split
    · exact inductionHypothesis uses held
    · rename_i absent
      obtain ⟨use, inside, holder⟩ := held
      have same := insertUse_perm first uses
      have apart : first.type.qualifiedName ≠ configuration.attributeHolder := by
        intro sameType
        refine absent (List.any_eq_true.mpr ⟨use, inside, ?_⟩)
        rw [decide_eq_true_eq, holder, sameType]
      have none : first.assignments configuration = 0 := if_neg apart
      rw [inductionHypothesis (insertUse first uses)
          ⟨use, same.mem_iff.mpr (List.mem_cons_of_mem first inside), holder⟩,
        (same.map _).sum_eq, List.map_cons, List.sum_cons, none, Nat.zero_add]

/-- A relocated member has lost an assignment for each value that moves. -/
theorem assignments_relocatedUses (file : String) (position : ClassPosition) (member : Member) :
    (member.annotations.map (AnnotationUse.assignments configuration)).sum =
      ((relocatedUses configuration store file position member).map
          (AnnotationUse.assignments configuration)).sum +
        (Occurrence.ofMember configuration file position member).countP
          fun found => (found.due configuration store).moves := by
  have stripped : (member.annotations.map (AnnotationUse.assignments configuration)).sum =
      ((strippedUses configuration store file position member).map
          (AnnotationUse.assignments configuration)).sum +
        (Occurrence.ofMember configuration file position member).countP
          fun found => (found.due configuration store).moves := by
    rw [Occurrence.ofMember, countP_ofAnnotations _ fun _ _ => rfl, ← sum_indicator, strippedUses,
      List.map_map, ← List.sum_map_add]
    exact congrArg List.sum (List.map_congr_left fun use _ =>
      assignments_strippedUse file position member use)
  rw [stripped, relocatedUses]
  cases found : Occurrence.ofMember configuration file position member with
  | nil => rw [companionsOf, found, List.filterMap_nil, List.foldl_nil]
  | cons first rest =>
    have inside : first ∈ Occurrence.ofMember configuration file position member := by
      rw [found]
      exact List.mem_cons_self
    obtain ⟨_, _, _, used, holder, _⟩ := Occurrence.mem_ofAnnotations _ _ _ _ _ _ _ inside
    rw [assignments_attached]
    exact ⟨_, List.mem_map.mpr ⟨_, used, rfl⟩, by rw [type_strippedUse, holder]⟩

end Relocation

namespace Apply

variable {configuration : Configuration} {store : Store} {unit : CompilationUnit}

/-- The annotations of a migrated file are those of its classes, and those of the relocated
members. -/
theorem annotations_migrated :
    (migrated configuration store unit).annotations =
      unit.positions.flatMap fun position => position.declaration.header.annotations ++
        position.declaration.body.flatMap
          (Relocation.relocatedUses configuration store unit.sourcePath position) := by
  rw [CompilationUnit.annotations, positions_migrated, List.flatMap_map]
  apply List.flatMap_congr
  intro position _
  have members : (position.changed (classChange configuration store unit)).body.flatMap
        Member.annotations =
      position.declaration.body.flatMap fun member =>
        (Relocation.relocated configuration store unit.sourcePath position member).annotations :=
    flatMap_classChange position _ (position.given_alike _) Member.annotations fun _ bare => bare
  simp only [Relocation.annotations_relocated] at members
  rw [← members]
  rfl

/-- A migrated file has lost an assignment for each value that was relocated. -/
theorem assignments_migrated :
    unit.assignments configuration =
      (migrated configuration store unit).assignments configuration +
        (unitTally configuration store unit).relocated := by
  rw [CompilationUnit.assignments, CompilationUnit.assignments, annotations_migrated,
    relocated_unitTally, CompilationUnit.annotations, sum_map_flatMap, sum_map_flatMap,
    Occurrence.ofUnit, List.countP_flatMap, ← List.sum_map_add]
  refine congrArg List.sum (List.map_congr_left fun position _ => ?_)
  rw [List.map_append, List.map_append, List.sum_append, List.sum_append, sum_map_flatMap,
    sum_map_flatMap, Function.comp_apply, Occurrence.ofClass, List.countP_flatMap, Nat.add_assoc,
    ← List.sum_map_add]
  refine congrArg (_ + ·) (congrArg List.sum (List.map_congr_left fun member _ => ?_))
  exact Relocation.assignments_relocatedUses unit.sourcePath position member

/-- Occurrences add nothing to a share that counts neither relocated values nor skipped ones. -/
theorem share_dues (share : Tally →+ Nat) (relocated : share ⟨0, 1, 0, 0⟩ = 0)
    (skipped : share ⟨0, 0, 0, 1⟩ = 0) (found : List Occurrence) :
    share (found.map fun one => (one.due configuration store).tally).sum = 0 := by
  rw [map_list_sum, List.map_map]
  apply List.sum_eq_zero
  intro amount inside
  obtain ⟨one, _, rfl⟩ := List.mem_map.mp inside
  rw [Function.comp_apply, Due.tally]
  split
  · exact relocated
  · exact skipped

/-- The fields that a file gets are those that its classes get. -/
theorem fieldsAdded_unitTally :
    (unitTally configuration store unit).fieldsAdded =
      (unit.positions.map fun position => (fieldsAt store unit position).length).sum := by
  let share : Tally →+ Nat := ⟨⟨Tally.fieldsAdded, rfl⟩, fun _ _ => rfl⟩
  have ofMember : ∀ position member,
      share (Relocation.memberTally configuration store unit.sourcePath position member) = 0 := by
    intro position member
    rw [Relocation.memberTally, map_add, share_dues share rfl rfl]
    rfl
  refine (share_classTallies share configuration store unit).trans ?_
  refine congrArg List.sum (List.map_congr_left fun position _ => ?_)
  refine Nat.add_eq_left.mpr (List.sum_eq_zero fun amount inside => ?_)
  obtain ⟨member, _, rfl⟩ := List.mem_map.mp inside
  exact ofMember position member

/-- A report that says that a file has not changed leaves the file as it was. -/
theorem unit_of_unchanged {report : FileReport}
    (gives : (file configuration store unit).Gives () () report)
    (unchanged : report.changed = false) : report.unit = unit := by
  rw [file] at gives
  split at gives
  · rw [Work.gives_inPhase] at gives
    rcases outcome_cases gives with ⟨failure, _, rfl⟩ | ⟨tally, answer, _, _, rfl⟩
    · rfl
    · cases answer with
      | none => rfl
      | some changed => cases unchanged
  · obtain ⟨_, rfl⟩ := (Work.gives_pure ..).mp gives
    rfl

end Apply

section

variable {configuration : Configuration} {units : List CompilationUnit} {unit : CompilationUnit}

/-- The value of an occurrence with a stored entry moves. -/
theorem Occurrence.Keyed.moves {found : Occurrence} {key : Key} {anchor : Anchor} {store : Store}
    {entry : Entry} (keyed : found.Keyed configuration key anchor)
    (stored : store.get? key = some entry) : (found.due configuration store).moves = true := by
  obtain ⟨analysis, analysed, outcome⟩ := keyed
  rw [Occurrence.due, analysed]
  simp only [Due.ofAnalysis, outcome, stored]
  rfl

/-- An entry of a file of the batch is kept for an occurrence of the file. -/
theorem kept_of_entriesOf (paths : (units.map CompilationUnit.sourcePath).Nodup)
    (listed : unit ∈ units) {entry : Entry}
    (inside : entry ∈ (scanned configuration units).store.entriesOf unit.sourcePath) :
    ∃ occurrence key anchor, entry.Kept configuration units unit occurrence key anchor := by
  obtain ⟨⟨key, _⟩, stored, rfl⟩ := List.mem_map.mp inside
  obtain ⟨among, file⟩ := List.mem_filter.mp stored
  obtain ⟨occurrence, anchor, kept⟩ :=
    Entry.kept_of_stored paths listed among (of_decide_eq_true file)
  exact ⟨occurrence, key, anchor, kept⟩

/-- A file from which no value moves has no entries. -/
theorem entriesOf_nil (paths : (units.map CompilationUnit.sourcePath).Nodup) (listed : unit ∈ units)
    (still : ∀ found ∈ Occurrence.ofUnit configuration unit,
      (found.due configuration (scanned configuration units).store).moves = false) :
    (scanned configuration units).store.entriesOf unit.sourcePath = [] := by
  rw [List.eq_nil_iff_forall_not_mem]
  intro entry inside
  obtain ⟨occurrence, key, anchor, kept⟩ := kept_of_entriesOf paths listed inside
  obtain ⟨other, stored⟩ := (scanned_records configuration units).complete occurrence
    (List.mem_flatMap.mpr ⟨unit, listed, kept.here⟩) key anchor kept.made.keyed
  have moves := kept.made.keyed.moves stored
  rw [still occurrence kept.here] at moves
  cases moves

/-- A class gets a field for every entry of its file that names it. -/
theorem length_fieldsAt (paths : (units.map CompilationUnit.sourcePath).Nodup)
    (listed : unit ∈ units) (named : unit.NamedApart) (position : ClassPosition)
    (placed : position ∈ unit.positions) :
    (Apply.fieldsAt (scanned configuration units).store unit position).length =
      (((scanned configuration units).store.entriesOf unit.sourcePath).filter fun entry =>
        entry.scope.qualifiedName = position.type.qualifiedName).length := by
  have names := congrArg List.length (Apply.fieldsAt_names configuration units unit position)
  rw [List.length_map, List.length_map] at names
  rw [names, due, List.filter_eq_self.mpr, Store.entriesFor, (sortByName_perm _).length_eq]
  · rfl
  · intro entry inside
    rw [Store.entriesFor, (sortByName_perm _).mem_iff] at inside
    obtain ⟨ofFile, scope⟩ := List.mem_filter.mp inside
    obtain ⟨occurrence, key, anchor, kept⟩ := kept_of_entriesOf paths listed ofFile
    have home : occurrence.position = position := by
      apply position_of_name named (Occurrence.file_of_mem_ofUnit kept.here).2 placed
      have scope := of_decide_eq_true scope
      rw [kept.made.scope] at scope
      exact scope
    have fresh := kept.undeclared
    rw [home] at fresh
    simpa using fresh

/-- The classes of a file get a field for every entry of the file. -/
theorem fieldsAdded_exact (paths : (units.map CompilationUnit.sourcePath).Nodup)
    (listed : unit ∈ units) (named : unit.NamedApart) :
    (Apply.unitTally configuration (scanned configuration units).store unit).fieldsAdded =
      ((scanned configuration units).store.entriesOf unit.sourcePath).length := by
  rw [Apply.fieldsAdded_unitTally, length_eq_sum_shares
    (fun entry : Entry => entry.scope.qualifiedName) _ _ named, List.map_map]
  · exact congrArg List.sum (List.map_congr_left fun position placed =>
      length_fieldsAt paths listed named position placed)
  · intro entry inside
    obtain ⟨occurrence, key, anchor, kept⟩ := kept_of_entriesOf paths listed inside
    refine List.mem_map.mpr ⟨_, (Occurrence.file_of_mem_ofUnit kept.here).2, ?_⟩
    rw [kept.made.scope]
    rfl

/-- The field of an entry is declared once in the output: its class is the only one of its name,
there it is the only member of its name, which was new, and no other class has come to declare the
name. -/
structure Entry.DeclaredOnce (unit output : CompilationUnit) (entry : Entry) : Prop where
  declared : ∃ field place, entry.field unit.imports = .ok field ∧
    output.positions.filter (fun position =>
      position.type.qualifiedName = entry.scope.qualifiedName) = [place] ∧
    place.declaration.body.filter (Member.declares entry.fieldName) = [.field field]
  fresh : ∀ position ∈ unit.positions, position.type.qualifiedName = entry.scope.qualifiedName →
    entry.fieldName ∉ position.declaration.declaredNames
  elsewhere : ∀ position place, (position, place) ∈ unit.positions.zip output.positions →
    position.type.qualifiedName ≠ entry.scope.qualifiedName →
    entry.fieldName ∉ position.declaration.declaredNames →
    entry.fieldName ∉ place.declaration.declaredNames

/-- The report of a file says of the file what the run did to it: whether it changed, which is
whether a value was relocated, how many entries have become fields, and how many assignments are
gone. -/
structure FileReport.Accurate (configuration : Configuration) (store : Store)
    (unit : CompilationUnit) (report : FileReport) : Prop where
  changed : report.changed = true ↔ report.unit ≠ unit
  relocated : report.changed = true ↔ 0 < report.tally.relocated
  fields : report.tally.fieldsAdded = (store.entriesOf unit.sourcePath).length
  names : ((store.entriesOf unit.sourcePath).map Entry.fieldName).Nodup
  declared : ∀ entry ∈ store.entriesOf unit.sourcePath, entry.DeclaredOnce unit report.unit
  removed : unit.assignments configuration =
    report.unit.assignments configuration + report.tally.relocated

/-- The field of an entry that is kept is declared once. -/
theorem Entry.Kept.declared_once {entry : Entry} {occurrence : Occurrence} {key : Key}
    {anchor : Anchor} (kept : entry.Kept configuration units unit occurrence key anchor)
    (named : unit.NamedApart) :
    entry.DeclaredOnce unit
      (Apply.migrated configuration (scanned configuration units).store unit) where
  declared := by
    obtain ⟨field, filled, only⟩ := kept.only_member
    exact ⟨field, _, filled, kept.only_class named, only⟩
  fresh := by
    intro position placed scope
    have home : position = occurrence.position := by
      apply position_of_name named placed (Occurrence.file_of_mem_ofUnit kept.here).2
      rw [scope, kept.made.scope]
      rfl
    rw [home]
    exact kept.undeclared
  elsewhere := by
    intro position place classes apart undeclared
    rw [Apply.positions_migrated] at classes
    obtain rfl := eq_of_mem_zip_map _ _ _ _ classes
    refine kept.only_home named position (List.of_mem_zip classes).1 ?_ undeclared
    rintro rfl
    apply apart
    rw [kept.made.scope]
    rfl

/-- Where nothing moves and no entry is stored for it, there is nothing to do in a file. -/
theorem settled_of_relocated (paths : (units.map CompilationUnit.sourcePath).Nodup)
    (listed : unit ∈ units)
    (analysable : ∀ found ∈ Occurrence.ofUnit configuration unit, found.Analysable configuration)
    (still : ∀ found ∈ Occurrence.ofUnit configuration unit,
      (found.due configuration (scanned configuration units).store).moves = false) :
    Apply.Settled configuration (scanned configuration units).store unit where
  complete := by
    intro position _
    rw [due, Store.entriesFor, entriesOf_nil paths listed still]
    rfl
  analysable := analysable
  still := still

/-- The report of one file is accurate. -/
theorem accurate_file (paths : (units.map CompilationUnit.sourcePath).Nodup)
    (listed : unit ∈ units) (named : unit.NamedApart)
    (analysable : ∀ found ∈ Occurrence.ofUnit configuration unit, found.Analysable configuration)
    (report : FileReport)
    (gives : (Apply.file configuration (scanned configuration units).store unit).Gives () ()
      report) :
    report.Accurate configuration (scanned configuration units).store unit := by
  have names := Apply.entriesOf_names_nodup configuration units unit.sourcePath
  by_cases still : ∀ found ∈ Occurrence.ofUnit configuration unit,
      (found.due configuration (scanned configuration units).store).moves = false
  · have none := entriesOf_nil paths listed still
    obtain ⟨_, rfl⟩ := (settled_of_relocated paths listed analysable still).file_leaves.unique gives
    exact {
      changed := by simp
      relocated := by simp
      fields := by rw [none, List.length_nil]
      names := names
      declared := fun entry inside => absurd inside (by simp [none])
      removed := rfl }
  · obtain ⟨found, inside, moves⟩ : ∃ found ∈ Occurrence.ofUnit configuration unit,
        (found.due configuration (scanned configuration units).store).moves = true := by
      simpa using still
    have touched := Occurrence.touches_of_mem_ofUnit configuration unit found inside
    have migrates := Apply.file_makes
      ((scanned_records configuration units).fillable unit.imports) report gives
    have result := migrates.result
    have counted := migrates.counted
    rw [if_pos touched] at result counted
    have some : 0 < report.tally.relocated := by
      rw [counted, Apply.relocated_unitTally, List.countP_pos_iff]
      exact ⟨found, inside, moves⟩
    have removed : unit.assignments configuration =
        report.unit.assignments configuration + report.tally.relocated := by
      rw [result, counted]
      exact Apply.assignments_migrated
    have other : report.unit ≠ unit := by
      intro same
      rw [same] at removed
      omega
    have changed : report.changed = true := by
      rw [← Bool.not_eq_false]
      exact fun unchanged => other (Apply.unit_of_unchanged gives unchanged)
    exact {
      changed := ⟨fun _ => other, fun _ => changed⟩
      relocated := ⟨fun _ => some, fun _ => changed⟩
      fields := by
        rw [counted]
        exact fieldsAdded_exact paths listed named
      names := names
      declared := by
        intro entry among
        obtain ⟨occurrence, key, anchor, kept⟩ := kept_of_entriesOf paths listed among
        rw [result]
        exact kept.declared_once named
      removed := removed }

end

/-- The fields that accurate reports count are the entries stored, if each entry is for one of the
files. -/
theorem size_eq_sum_fields {configuration : Configuration} {units : List CompilationUnit}
    {store : Store} {files : List FileReport}
    (paths : (units.map CompilationUnit.sourcePath).Nodup)
    (covered : ∀ stored ∈ store.entries, stored.1.file ∈ units.map CompilationUnit.sourcePath)
    (accurate : List.Forall₂ (FileReport.Accurate configuration store) units files) :
    store.size = (files.map fun file => file.tally.fieldsAdded).sum := by
  rw [Store.size, length_eq_sum_shares (fun stored : Key × Entry => stored.1.file) _ _ paths
    covered, List.map_map]
  have shares : units.map (fun unit => (store.entries.filter fun stored =>
      stored.1.file = unit.sourcePath).length) = files.map fun file => file.tally.fieldsAdded := by
    refine map_eq_map_of_forall₂ (accurate.imp fun unit file accurateFile => ?_)
    rw [accurateFile.fields, Store.entriesOf, List.length_map]
  exact congrArg List.sum shares

/-- Where files have paths of their own and classes their names, the report of a run that returns
matches the trees: for each file, it has changed exactly if it is another than it was, and exactly
if a value was relocated; as many fields were added as entries are stored for the file, and each is
declared once in the output; as many values were relocated as assignments of the attribute are gone.
The number of entries is that of the fields added to all files. -/
theorem reports_match_trees (configuration : Configuration) (units : List CompilationUnit)
    (report : RunReport) (paths : (units.map CompilationUnit.sourcePath).Nodup)
    (named : ∀ unit ∈ units, unit.NamedApart)
    (returned : (run configuration units ()).outcome = .ok report) :
    List.Forall₂ (FileReport.Accurate configuration
        (Scan.batch configuration units (.starting .empty)).state.store) units report.files ∧
      report.entries = (report.files.map fun file => file.tally.fieldsAdded).sum := by
  obtain ⟨analysable, worked, entries⟩ :=
    (run_returns_iff configuration units report).mp returned
  have accurate : List.Forall₂ (FileReport.Accurate configuration
      (scanned configuration units).store) units report.files := by
    have each := (List.forall₂_and_left ..).mpr
      ⟨fun unit (listed : unit ∈ units) => And.intro listed (named unit listed), worked⟩
    refine each.imp ?_
    rintro unit file ⟨⟨listed, apart⟩, gives⟩
    refine accurate_file paths listed apart ?_ file gives
    exact fun found inside => analysable found (List.mem_flatMap.mpr ⟨unit, listed, inside⟩)
  rw [scan_state returned]
  refine ⟨accurate, entries.trans (size_eq_sum_fields paths ?_ accurate)⟩
  intro stored inside
  obtain ⟨occurrence, seen, _, made⟩ := (scanned_records configuration units).made stored inside
  obtain ⟨unit, listed, here⟩ := List.mem_flatMap.mp seen
  rw [made.keyed.file, (Occurrence.file_of_mem_ofUnit here).1]
  exact List.mem_map.mpr ⟨unit, listed, rfl⟩

/-- Of a file with three values, one of which is skipped, two assignments are gone and one field is
declared; the file beside it has not changed. -/
theorem reports_match_trees_beside_plain :
    ∃ store first second,
      (reported {} [assortedClass, plainClass]).files = [first, second] ∧
      first.Accurate {} store assortedClass ∧ second.Accurate {} store plainClass ∧
      first.changed = true ∧ first.tally.relocated = 2 ∧
      assortedClass.assignments {} = 3 ∧ first.unit.assignments {} = 1 ∧
      first.tally.fieldsAdded = 1 ∧ second.changed = false ∧ second.unit = plainClass ∧
      (reported {} [assortedClass, plainClass]).entries = 1 := by
  obtain ⟨accurate, entries⟩ := reports_match_trees {} [assortedClass, plainClass]
    (reported {} [assortedClass, plainClass]) (by decide) (by decide) rfl
  obtain ⟨first, others⟩ := List.forall₂_cons.mp accurate
  obtain ⟨second, _⟩ := List.forall₂_cons.mp others
  exact ⟨_, _, _, rfl, first, second, rfl, rfl, by decide, by decide, rfl, rfl, rfl,
    entries.trans rfl⟩

end TypedDefaults
