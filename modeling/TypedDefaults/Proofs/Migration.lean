import TypedDefaults.Proofs.Companions
import TypedDefaults.Proofs.Fields
import TypedDefaults.Run

/-!
# Migrated files

What a run makes of a file is said here without steps: every class gets its
fields and relocated members, and the imports are extended if companions were
attached. A run that returns has done this to every file that it touches, and
has counted it; no file is left behind with a failure.
-/

namespace TypedDefaults

open Java

/-- Alike classes declare the same names. -/
theorem Java.ClassDeclaration.Alike.declaredNames {declared current : ClassDeclaration}
    (alike : declared.Alike current) : current.declaredNames = declared.declaredNames := by
  have read : ∀ body : List Member, body.filterMap Member.declaredName? =
      (body.map Member.outline).filterMap fun outline => outline.bind Member.declaredName? := by
    intro body
    rw [List.filterMap_map]
    apply List.filterMap_congr
    intro member _
    cases member <;> rfl
  rw [ClassDeclaration.declaredNames, read, alike.outline, ← read]
  rfl

/-- The member carries an annotation. -/
def Java.Member.isAnnotated (member : Member) : Bool := !member.annotations.isEmpty

theorem Java.Member.annotations_of_not_annotated {member : Member}
    (bare : ¬member.isAnnotated = true) : member.annotations = [] := by
  simpa [isAnnotated] using bare

namespace Apply

variable (configuration : Configuration) (store : Store) (unit : CompilationUnit)

/-- The fields that a class of the file gets. -/
def fieldsAt (position : ClassPosition) : List FieldDeclaration :=
  Synthesis.made store unit.imports unit.sourcePath position.declaration

/-- A class gets its fields, and its members are relocated. -/
def classChange : ClassChange := fun position current =>
  ⟨current.header, (Synthesis.insertFields (fieldsAt store unit position) current.body).map
    (Relocation.relocated configuration store unit.sourcePath position)⟩

/-- What the work on a class adds to the tally. -/
def classTally (position : ClassPosition) : Tally :=
  ⟨(fieldsAt store unit position).length, 0, 0, 0⟩ +
    (position.declaration.body.map
      (Relocation.memberTally configuration store unit.sourcePath position)).sum

/-- What the work on a file counts. -/
def unitTally : Tally := (unit.positions.map (classTally configuration store unit)).sum

/-- The file with all its classes changed, and the import that this asks for. -/
def migrated : CompilationUnit :=
  { unit.changed (classChange configuration store unit) with
    imports := (newImports configuration (unitTally configuration store unit)
      unit.imports).getD unit.imports }

/-- What a run does to a file. -/
structure Migrates (report : FileReport) : Prop where
  result : report.unit =
    if configuration.touches unit then migrated configuration store unit else unit
  counted : report.tally =
    if configuration.touches unit then unitTally configuration store unit else 0
  unfailed : report.failure = none

end Apply

namespace Relocation

variable {configuration : Configuration} {store : Store}

/-- Nothing is relocated in a member without annotations. -/
theorem relocated_bare (file : String) (position : ClassPosition) (member : Member)
    (bare : member.annotations = []) :
    relocated configuration store file position member = member ∧
      memberTally configuration store file position member = 0 := by
  have nothing : Occurrence.ofMember configuration file position member = [] := by
    rw [Occurrence.ofMember, bare, Occurrence.ofAnnotations]
  have kept : relocatedUses configuration store file position member = member.annotations :=
    relocatedUses_of_still file position member (by simp [nothing])
  constructor
  · rw [relocated, kept, withAnnotations_self]
  · rw [memberTally, nothing, kept, bare]
    rfl

/-- Relocation keeps what a member is. -/
theorem isNested_relocated (file : String) (position : ClassPosition) (member : Member) :
    (relocated configuration store file position member).isNested = member.isNested := by
  cases member <;> rfl

end Relocation

namespace Apply

variable {configuration : Configuration} {store : Store} {unit : CompilationUnit}

/-- Synthesized fields have no annotations. -/
theorem fieldsAt_bare (position : ClassPosition) (field : FieldDeclaration)
    (inside : field ∈ fieldsAt store unit position) : field.annotations = [] := by
  obtain ⟨entry, _, made⟩ := (Synthesis.mem_made_iff ..).mp inside
  exact entry.annotations_field unit.imports field made

/-- The changes of a run keep the nesting of classes. -/
theorem classChange_keepsNesting (configuration : Configuration) (store : Store)
    (unit : CompilationUnit) : (classChange configuration store unit).KeepsNesting where
  header := fun _ _ => rfl
  nested := by
    intro position current
    rw [classChange, List.filter_map]
    have same : Member.isNested ∘
        Relocation.relocated configuration store unit.sourcePath position = Member.isNested :=
      funext (Relocation.isNested_relocated unit.sourcePath position)
    rw [same, Synthesis.filter_insertFields]
    refine (List.map_congr_left fun member inside => ?_).trans (List.map_id _)
    obtain ⟨_, nested⟩ := List.mem_filter.mp inside
    cases member with
    | nested header body => rfl
    | _ => cases nested

/-- The positions of a migrated file are the moved ones. -/
theorem positions_migrated :
    (migrated configuration store unit).positions =
      unit.positions.map (ClassPosition.moved (classChange configuration store unit)) :=
  unit.positions_changed (classChange_keepsNesting configuration store unit)

/-- The annotated members of a class are the same, in order, once fields are inserted and nested
classes changed. -/
theorem annotated_inserted (position : ClassPosition) (current : ClassDeclaration)
    (alike : position.declaration.Alike current) :
    (Synthesis.insertFields (fieldsAt store unit position) current.body).filter
        Member.isAnnotated =
      position.declaration.body.filter Member.isAnnotated := by
  have read : ∀ body : List Member, body.filter Member.isAnnotated =
      (body.map Member.outline).filterMap fun outline =>
        outline.filter Member.isAnnotated := by
    intro body
    rw [List.filterMap_map, ← List.filterMap_eq_filter]
    apply List.filterMap_congr
    intro member _
    cases member <;> rfl
  have fields : ((fieldsAt store unit position).map Member.field).filter Member.isAnnotated =
      [] := by
    rw [List.filter_eq_nil_iff]
    intro member inside
    obtain ⟨field, made, rfl⟩ := List.mem_map.mp inside
    simp [Member.isAnnotated, Member.annotations, fieldsAt_bare position field made]
  obtain ⟨front, back, body, inserted⟩ :=
    Synthesis.insertFields_split (fieldsAt store unit position) current.body
  rw [inserted, List.filter_append, List.filter_append, fields, List.nil_append,
    ← List.filter_append, ← body, read, alike.outline, ← read]

/-- The members of a class add the same to the tally before and after fields are inserted and nested
classes changed. -/
theorem sum_memberTally (position : ClassPosition) (current : ClassDeclaration)
    (alike : position.declaration.Alike current) :
    ((Synthesis.insertFields (fieldsAt store unit position) current.body).map
        (Relocation.memberTally configuration store unit.sourcePath position)).sum =
      (position.declaration.body.map
        (Relocation.memberTally configuration store unit.sourcePath position)).sum := by
  have annotated : ∀ body : List Member,
      (body.map (Relocation.memberTally configuration store unit.sourcePath position)).sum =
        ((body.filter Member.isAnnotated).map
          (Relocation.memberTally configuration store unit.sourcePath position)).sum := by
    intro body
    induction body with
    | nil => rfl
    | cons member rest inductionHypothesis =>
      rw [List.map_cons, List.sum_cons, inductionHypothesis, List.filter_cons]
      split
      · rw [List.map_cons, List.sum_cons]
      · rename_i bare
        rw [(Relocation.relocated_bare unit.sourcePath position member
          (Member.annotations_of_not_annotated bare)).2, zero_add]
  rw [annotated, annotated_inserted position current alike, ← annotated]

/-- What annotated members hold is held before and after fields are inserted and nested classes
changed. -/
theorem flatMap_inserted {β : Type} (position : ClassPosition) (current : ClassDeclaration)
    (alike : position.declaration.Alike current) (held : Member → List β)
    (bare : ∀ member : Member, member.annotations = [] → held member = []) :
    (Synthesis.insertFields (fieldsAt store unit position) current.body).flatMap held =
      position.declaration.body.flatMap held := by
  have annotated : ∀ body : List Member,
      body.flatMap held = (body.filter Member.isAnnotated).flatMap held := by
    intro body
    induction body with
    | nil => rfl
    | cons member rest inductionHypothesis =>
      rw [List.flatMap_cons, inductionHypothesis, List.filter_cons]
      split
      · rw [List.flatMap_cons]
      · rename_i notAnnotated
        rw [bare member (Member.annotations_of_not_annotated notAnnotated), List.nil_append]
  rw [annotated, annotated_inserted position current alike, ← annotated]

/-- What the annotated members of a changed class hold is what the members of the class hold once
relocated. -/
theorem flatMap_classChange {β : Type} (position : ClassPosition) (current : ClassDeclaration)
    (alike : position.declaration.Alike current) (held : Member → List β)
    (bare : ∀ member : Member, member.annotations = [] → held member = []) :
    (classChange configuration store unit position current).body.flatMap held =
      position.declaration.body.flatMap fun member =>
        held (Relocation.relocated configuration store unit.sourcePath position member) := by
  rw [classChange, List.flatMap_map]
  refine flatMap_inserted position current alike _ fun member notAnnotated => ?_
  rw [(Relocation.relocated_bare unit.sourcePath position member notAnnotated).1,
    bare member notAnnotated]

/-- Alike classes get the same fields. -/
theorem made_of_alike (position : ClassPosition) (current : ClassDeclaration)
    (alike : position.declaration.Alike current) :
    Synthesis.made store unit.imports unit.sourcePath current = fieldsAt store unit position := by
  rw [fieldsAt, Synthesis.made, Synthesis.made, Synthesis.due, Synthesis.due, alike.header,
    alike.declaredNames]

/-- A visit that completes leaves the class changed and counts the work on it. -/
theorem visit_makes :
    (visit configuration store unit).Makes (classChange configuration store unit)
      (classTally configuration store unit) := by
  intro position current before after answer alike gives
  rw [visit, Work.gives_bind] at gives
  obtain ⟨_, fields, made, gives⟩ := gives
  rw [Work.gives_mapFailure, Synthesis.gives_fields, made_of_alike position current alike] at made
  obtain ⟨_, unchanged, rfl⟩ := made
  rw [unchanged, Work.gives_bind] at gives
  obtain ⟨_, _, counted, gives⟩ := gives
  obtain rfl := (Work.gives_modify ..).mp counted
  rw [Work.gives_bind] at gives
  obtain ⟨reached, changed, worked, ended⟩ := gives
  rw [Work.gives_mapFailure] at worked
  obtain ⟨values, tally⟩ := Relocation.body_makes _ _ _ _ _ _ worked
  have total : reached = before + classTally configuration store unit position := by
    rw [tally, sum_memberTally position current alike, classTally, ← add_assoc]
    rfl
  rw [classChange, ← values]
  cases changed with
  | some body =>
    obtain ⟨rfl, rfl⟩ := (Work.gives_pure ..).mp ended
    exact ⟨rfl, total⟩
  | none =>
    obtain ⟨rfl, rfl⟩ := (Work.gives_pure ..).mp ended
    refine ⟨?_, total⟩
    cases fieldsAt store unit position with
    | nil => simp [Synthesis.insertFields_nil]
    | cons field rest => rfl

/-- The change of a file that completes leaves it migrated, and counts the work on it. -/
theorem change_makes (tally : Tally) (answer : Option CompilationUnit)
    (gives : (change configuration store unit).Gives .zero tally answer) :
    answer.getD unit = migrated configuration store unit ∧
      tally = unitTally configuration store unit := by
  rw [change, Work.gives_bind] at gives
  obtain ⟨_, rebuilt, worked, gives⟩ := gives
  obtain ⟨changed, counted⟩ := unit.rebuild_makes visit_makes _ _ _ worked
  rw [Work.gives_bind] at gives
  obtain ⟨_, _, read, gives⟩ := gives
  obtain ⟨rfl, rfl⟩ := (Work.gives_state ..).mp read
  have total : _ = unitTally configuration store unit := counted.trans (zero_add _)
  rw [total] at gives
  rw [migrated, ← changed]
  cases imported : newImports configuration (unitTally configuration store unit) unit.imports with
  | none =>
    rw [imported] at gives
    obtain ⟨rfl, rfl⟩ := (Work.gives_pure ..).mp gives
    refine ⟨?_, rfl⟩
    rw [Option.getD_none]
    have kept : (answer.getD unit).imports = unit.imports := by
      rw [changed]
      rfl
    rw [← kept]
  | some imports =>
    rw [imported] at gives
    simp only [Work.gives_bind, Work.gives_note, Work.gives_pure] at gives
    obtain ⟨_, _, rfl, rfl, rfl⟩ := gives
    exact ⟨rfl, rfl⟩

/-- No visit fails for want of a field where every stored entry can be made one. -/
theorem visit_cannot_fail
    (fillable : ∀ stored ∈ store.entries, ∃ field, stored.2.field unit.imports = .ok field)
    (failure : FieldError) :
    ¬(visit configuration store unit).CanFail (.template failure) := by
  rintro ⟨position, current, reached, failed⟩
  rw [visit, Work.fails_bind, Work.fails_mapFailure] at failed
  rcases failed with ⟨original, failing, _⟩ | ⟨_, fields, _, failed⟩
  · exact Synthesis.not_fails_fields store unit.imports unit.sourcePath current fillable reached
      original failing
  · rw [Work.fails_bind] at failed
    rcases failed with counting | ⟨_, _, _, failed⟩
    · simp at counting
    · rw [Work.fails_bind, Work.fails_mapFailure] at failed
      rcases failed with ⟨original, _, other⟩ | ⟨_, changed, _, ended⟩
      · cases other
      · cases changed <;> simp at ended

/-- The change of a file does not fail for want of a field where every stored entry can be made one.
-/
theorem not_fails_change
    (fillable : ∀ stored ∈ store.entries, ∃ field, stored.2.field unit.imports = .ok field)
    (failure : FieldError) :
    ¬(change configuration store unit).Fails .zero (.template failure) := by
  intro failed
  rw [change, Work.fails_bind] at failed
  rcases failed with rebuilding | ⟨_, _, _, later⟩
  · exact visit_cannot_fail fillable failure (unit.rebuild_fails _ _ rebuilding)
  · simp only [Work.fails_bind, Work.fails_state, false_or] at later
    obtain ⟨_, _, _, ended⟩ := later
    revert ended
    split <;> simp

/-- The work on a file gives a result in one of two ways: either its change fails for want of a
field, and the file is left, or the change ends and is what is told and reported. -/
theorem outcome_cases {report : FileReport}
    (gives : (outcome configuration store unit).Gives () () report) :
    (∃ failure, (change configuration store unit).Fails .zero (.template failure) ∧
      report = .left unit failure) ∨
    ∃ tally answer, (change configuration store unit).Gives .zero tally answer ∧
      (outcome configuration store unit ()).known = (change configuration store unit .zero).known ∧
      report = ⟨unit.sourcePath, answer.getD unit, answer.isSome, tally, none⟩ := by
  obtain ⟨_, gives⟩ := gives
  rw [outcome] at gives ⊢
  simp only [Work.Fails, Work.Gives]
  rcases ended : change configuration store unit .zero with ⟨tally, known, result⟩
  rw [ended] at gives
  cases result with
  | error failure =>
    cases failure with
    | oversized numeral => cases gives
    | template failure => exact .inl ⟨failure, rfl, (Except.ok.inj gives).symm⟩
  | ok answer => exact .inr ⟨tally, answer, ⟨rfl, rfl⟩, rfl, (Except.ok.inj gives).symm⟩

/-- Where every stored entry can be made a field, the change of a file ends, and is what is told and
reported. -/
theorem outcome_completes
    (fillable : ∀ stored ∈ store.entries, ∃ field, stored.2.field unit.imports = .ok field)
    {report : FileReport} (gives : (outcome configuration store unit).Gives () () report) :
    ∃ tally answer, (change configuration store unit).Gives .zero tally answer ∧
      (outcome configuration store unit ()).known = (change configuration store unit .zero).known ∧
      report = ⟨unit.sourcePath, answer.getD unit, answer.isSome, tally, none⟩ := by
  rcases outcome_cases gives with ⟨failure, failed, _⟩ | completed
  · exact absurd failed (not_fails_change fillable failure)
  · exact completed

/-- The work on a file that gives a result has migrated it. -/
theorem outcome_makes
    (fillable : ∀ stored ∈ store.entries, ∃ field, stored.2.field unit.imports = .ok field)
    (report : FileReport) (gives : (outcome configuration store unit).Gives () () report) :
    report.unit = migrated configuration store unit ∧
      report.tally = unitTally configuration store unit ∧ report.failure = none := by
  obtain ⟨tally, answer, completed, _, rfl⟩ := outcome_completes fillable gives
  obtain ⟨changed, counted⟩ := change_makes tally answer completed
  exact ⟨changed, counted, rfl⟩

/-- The work on a file, touched or not, leaves it as the run is to. -/
theorem file_makes
    (fillable : ∀ stored ∈ store.entries, ∃ field, stored.2.field unit.imports = .ok field)
    (report : FileReport) (gives : (file configuration store unit).Gives () () report) :
    Migrates configuration store unit report := by
  rw [file] at gives
  split at gives
  · rename_i touched
    obtain ⟨result, counted, unfailed⟩ := outcome_makes fillable report gives
    exact ⟨by rw [if_pos touched, result], by rw [if_pos touched, counted], unfailed⟩
  · rename_i untouched
    obtain ⟨_, rfl⟩ := (Work.gives_pure ..).mp gives
    exact ⟨by rw [if_neg untouched]; rfl, by rw [if_neg untouched]; rfl, rfl⟩

end Apply

/-- What the scan of a batch leaves. -/
def scanned (configuration : Configuration) (units : List CompilationUnit) : ScanState :=
  (Occurrence.ofBatch configuration units).foldl (ScanState.scan configuration) (.starting .empty)

/-- The scan of a batch records its occurrences. -/
theorem scanned_records (configuration : Configuration) (units : List CompilationUnit) :
    (scanned configuration units).Records configuration (Occurrence.ofBatch configuration units) :=
  ScanState.records_foldl configuration _

/-- The second phase completes exactly if the work on every file does. -/
theorem Apply.gives_batch (configuration : Configuration) (store : Store)
    (units : List CompilationUnit) (files : List FileReport) :
    (Apply.batch configuration store units).Gives () () files ↔
      List.Forall₂ (fun unit file => (Apply.file configuration store unit).Gives () () file) units
        files := by
  rw [Apply.batch, Work.gives_inPhase, Work.gives_forEach_stateless]

/-- A run returns exactly if both phases complete, the second one with what the first leaves. -/
theorem run_returns_phases (configuration : Configuration) (units : List CompilationUnit)
    (report : RunReport) :
    (run configuration units ()).outcome = .ok report ↔
      ∃ state, (Scan.batch configuration units).Gives (.starting .empty) state () ∧
        (Apply.batch configuration state.store units).Gives () () report.files ∧
        report.entries = state.store.size := by
  rw [run]
  rcases ended : Scan.batch configuration units (.starting .empty) with ⟨state, known, outcome⟩
  cases outcome with
  | error numeral => simp [Work.Gives, ended]
  | ok value =>
    simp only [Work.Gives, ended, and_true]
    rw [exists_eq_left']
    cases applied : (Apply.batch configuration state.store units ()).outcome with
    | error numeral => simp [Except.map]
    | ok files =>
      rcases report with ⟨reported, entries⟩
      simp [Except.map, eq_comm]

/-- A run returns exactly if all analyses end and the work on the files does, from what the scan
leaves. -/
theorem run_returns_iff (configuration : Configuration) (units : List CompilationUnit)
    (report : RunReport) :
    (run configuration units ()).outcome = .ok report ↔
      (∀ found ∈ Occurrence.ofBatch configuration units, found.Analysable configuration) ∧
        List.Forall₂ (fun unit file =>
          (Apply.file configuration (scanned configuration units).store unit).Gives () () file)
          units report.files ∧
        report.entries = (scanned configuration units).store.size := by
  rw [run_returns_phases]
  simp only [Scan.completes_batch, Apply.gives_batch]
  constructor
  · rintro ⟨_, ⟨analysable, rfl⟩, files, entries⟩
    exact ⟨analysable, files, entries⟩
  · rintro ⟨analysable, files, entries⟩
    exact ⟨_, ⟨analysable, rfl⟩, files, entries⟩

/-- What a scan of occurrences stores can be made fields in any file. -/
theorem ScanState.Records.fillable {configuration : Configuration} {seen : List Occurrence}
    {state : ScanState} (records : state.Records configuration seen) (imports : List Import) :
    ∀ stored ∈ state.store.entries, ∃ field, stored.2.field imports = .ok field := by
  intro stored inside
  obtain ⟨occurrence, _, anchor, made⟩ := records.made stored inside
  obtain ⟨_, _, _, _, _, filled⟩ := made.field_exact imports
  exact ⟨_, filled⟩

/-- A run that returns has migrated the files that it touches, and none has failed.

Every entry of the scan was made for an occurrence, so each can be made a field in any file; this is
why the work on a file ends in its migrated form or not at all. -/
theorem run_migrates (configuration : Configuration) (units : List CompilationUnit)
    (report : RunReport) (returned : (run configuration units ()).outcome = .ok report) :
    List.Forall₂ (Apply.Migrates configuration (scanned configuration units).store) units
      report.files := by
  obtain ⟨_, worked, _⟩ := (run_returns_iff configuration units report).mp returned
  refine worked.imp fun unit file gives => Apply.file_makes ?_ file gives
  exact (scanned_records configuration units).fillable unit.imports

/-- The report of a run that returns, and an empty one where it does not. -/
def reported (configuration : Configuration) (units : List CompilationUnit) : RunReport :=
  (run configuration units ()).outcome.toOption.getD default

end TypedDefaults
