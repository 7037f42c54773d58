import TypedDefaults.Proofs.Failures
import TypedDefaults.Proofs.Interleaving
import TypedDefaults.Proofs.Repetition
import TypedDefaults.Proofs.Telling

/-!
# Both phases agree

The second phase analyses every occurrence again, in classes that have got fields
and changed nested classes since the scan. It comes upon the same occurrences,
and leaves an occurrence for the reason for which the scan skipped it: an entry
is missing for none, so it never warns, and all others are relocated. What the
trace of a run says of things left as they are is what the scan says.
-/

namespace TypedDefaults

open Java

namespace Occurrence

variable (configuration : Configuration) (store : Store) (found : Occurrence)

/-- The reason for which the scan skips an occurrence, if it does. -/
def skippedFor? : Option SkipReason :=
  match found.analyse configuration with
  | .ok ⟨_, _, .skipped reason⟩ => some reason
  | _ => none

/-- The reason for which the second phase leaves an occurrence as it is, if it does. -/
def leftFor? : Option SkipReason :=
  match found.due configuration store with
  | .nothing => found.skippedFor? configuration
  | .missingEntry => some .missingEntry
  | .relocate _ => none

/-- What the scan notes of an occurrence that it skips. -/
def skipEvents : List Event :=
  (found.skippedFor? configuration).toList.map fun reason =>
    .note (.skipped found.location reason.word "")

/-- What the second phase notes of an occurrence whose entry is missing. -/
def warnings : List Event :=
  match found.due configuration store with
  | .missingEntry => [.note (.warned ("No accumulator entry for '" ++ found.location ++ "'"))]
  | _ => []

variable {configuration store found}

/-- A value that is no anchor is skipped for one of two reasons. -/
theorem anchorlessReason_cases (value : Expression) :
    anchorlessReason value = .unresolvedSymbol ∨ anchorlessReason value = .unsupportedAnchor := by
  cases value with
  | identifier name => exact .inl rfl
  | fieldAccess target name type => exact .inl rfl
  | _ => exact .inr rfl

/-- Whatever is found of an occurrence, it is not that an entry is missing. -/
theorem skippedFor?_ne_missingEntry : found.skippedFor? configuration ≠ some .missingEntry := by
  rw [skippedFor?]
  split
  · rename_i kind anchor reason analysed
    rintro ⟨⟩
    generalize outcome : Analysis.mk kind anchor (.skipped .missingEntry) = analysis at analysed
    cases analyse_finds configuration found analysis analysed with
    | anchorless stored absent =>
      rcases anchorlessReason_cases found.value with unresolved | unsupported
      · simp [unresolved] at outcome
      · simp [unsupported] at outcome
    | _ => simp at outcome
  · simp

/-- An occurrence with a reason to be left is one whose value does not move, and the other way
round. -/
theorem isSome_leftFor? (analysable : found.Analysable configuration) :
    (found.leftFor? configuration store).isSome = !(found.due configuration store).moves := by
  obtain ⟨⟨kind, anchor, outcome⟩, analysed⟩ := analysable
  rw [leftFor?, due, skippedFor?, analysed]
  cases outcome with
  | keyed key keyedAnchor =>
    simp only [Due.ofAnalysis]
    cases store.get? key <;> rfl
  | _ => rfl

/-- Where the entry of every key is stored, the second phase has the reasons of the scan. -/
theorem leftFor?_of_stored (analysable : found.Analysable configuration)
    (stored : ∀ key anchor, found.Keyed configuration key anchor →
      ∃ entry, store.get? key = some entry) :
    found.leftFor? configuration store = found.skippedFor? configuration ∧
      found.warnings configuration store = [] := by
  obtain ⟨⟨kind, anchor, outcome⟩, analysed⟩ := analysable
  rw [leftFor?, warnings, due, skippedFor?, analysed]
  cases outcome with
  | keyed key keyedAnchor =>
    obtain ⟨entry, there⟩ := stored key keyedAnchor ⟨_, analysed, rfl⟩
    simp [Due.ofAnalysis, there]
  | _ => exact ⟨rfl, rfl⟩

end Occurrence

/-- The event says that something was left as it is: an occurrence skipped, or a warning. -/
def Event.isCaveat (event : Event) : Bool :=
  event.type = .occurrenceSkipped || event.type = .analysisWarning

/-- The event of an action, if it is a caveat. -/
def Action.caveat? (action : Action) : Option Event := action.noted?.filter Event.isCaveat

/-- The caveats of a trace that starts from nothing are those among the actions. -/
theorem Trace.caveats_performAll (actions : List Action) :
    ((Trace.empty.performAll actions).records.map Record.event).filter Event.isCaveat =
      actions.filterMap Action.caveat? := by
  have picked : ∀ event : Event,
      Option.guard Event.isCaveat event = event.noted?.filter Event.isCaveat := by
    intro event
    cases event <;> rfl
  rw [← List.filterMap_eq_filter, List.filterMap_map]
  calc (Trace.empty.performAll actions).records.filterMap
        (Option.guard Event.isCaveat ∘ Record.event)
      = ((Trace.empty.performAll actions).records.filterMap
          fun record => record.event.noted?).filter Event.isCaveat := by
        rw [List.filter_filterMap]
        exact List.filterMap_congr fun record _ => picked record.event
    _ = (actions.filterMap Action.noted?).filter Event.isCaveat := by
        rw [Trace.noted_performAll]
        rfl
    _ = actions.filterMap Action.caveat? := List.filter_filterMap ..

/-- A phase has the caveats of what happens inside. -/
theorem Work.caveats_inPhase {σ ε α : Type} (name detail : String) {work : Work Action σ ε α}
    {told : List Event} (tells : Work.Tells Action.caveat? work told) :
    Work.Tells Action.caveat? (Work.inPhase name detail work) told := by
  have whole : Work.Tells Action.caveat? (Work.inPhase name detail work) (told ++ []) :=
    Work.tells_inPhase name detail tells
  rwa [List.append_nil] at whole

namespace Scan

variable (configuration : Configuration)

/-- The scan of an occurrence has a caveat if it skips the occurrence. -/
theorem tells_occurrence (found : Occurrence) :
    Work.Tells Action.caveat? (occurrence configuration found)
      (found.skipEvents configuration) := by
  refine Work.tells_bind (Work.tells_ofExcept _) fun _ _ analysis gives => ?_
  obtain ⟨_, analysed⟩ := (Work.gives_ofExcept ..).mp gives
  refine Work.tells_bind Work.tells_state fun _ _ state _ => ?_
  have notes : ((state.take found analysis).2.map Action.note).filterMap Action.caveat? =
      found.skipEvents configuration := by
    rw [Occurrence.skipEvents, Occurrence.skippedFor?, analysed, ScanState.take]
    rcases analysis with ⟨kind, anchor, outcome⟩
    cases outcome with
    | keyed key keyedAnchor =>
      simp only [ScanState.record]
      cases state.store.get? key <;> rfl
    | _ => rfl
  change Work.Tells Action.caveat? _ (found.skipEvents configuration)
  rw [← notes]
  exact Work.tells_bind (Work.tells_modify _) fun _ _ _ _ =>
    (Work.tells_tell _).followed fun _ => Work.tells_pure analysis

/-- The scan of a file has the caveats of its occurrences. -/
theorem tells_touched (unit : CompilationUnit) :
    Work.Tells Action.caveat? (touched configuration unit)
      ((Occurrence.ofUnit configuration unit).flatMap
        (Occurrence.skipEvents configuration)) := by
  rw [touched]
  split
  · have scanned := Work.tells_forEach
      fun found (_ : found ∈ Occurrence.ofUnit configuration unit) =>
        tells_occurrence configuration found
    exact Work.caveats_inPhase _ _ (scanned.followed fun _ => Work.tells_pure ())
  · rename_i untouched
    rw [Occurrence.ofUnit_of_untouched configuration unit untouched]
    exact Work.tells_pure ()

/-- The scan of a batch has the caveats of the occurrences of the batch. -/
theorem tells_batch (units : List CompilationUnit) :
    Work.Tells Action.caveat? (batch configuration units)
      ((Occurrence.ofBatch configuration units).flatMap
        (Occurrence.skipEvents configuration)) := by
  have scanned := Work.tells_forEach fun unit (_ : unit ∈ units) =>
    tells_touched configuration unit
  rw [Occurrence.ofBatch, List.flatMap_assoc]
  exact Work.caveats_inPhase _ _ (scanned.followed fun _ => Work.tells_pure ())

end Scan

/-- Making fields has no caveats. -/
theorem Synthesis.tells_fields {σ : Type} (store : Store) (imports : List Import) (file : String)
    (declaration : ClassDeclaration) :
    Work.Tells Action.caveat?
      (fields store imports file declaration : Work Action σ FieldError _) [] := by
  have whole : Work.Tells Action.caveat?
      (fields store imports file declaration : Work Action σ FieldError _)
      ((due store file declaration).flatMap fun _ => []) :=
    Work.tells_forEach fun entry _ => (Work.tells_ofExcept _).followed fun field =>
      (Work.tells_note _).followed fun _ => Work.tells_pure field
  rwa [List.flatMap_eq_nil_iff.mpr fun _ _ => rfl] at whole

namespace Relocation

variable (configuration : Configuration) (store : Store)

/-- Relocation has a caveat if an entry is missing. -/
theorem tells_occurrence (found : Occurrence) (progress : Progress) :
    Work.Tells Action.caveat? (occurrence configuration store found progress)
      (found.warnings configuration store) := by
  refine Work.tells_bind (Work.tells_ofExcept _) fun _ _ analysis gives => ?_
  obtain ⟨_, analysed⟩ := (Work.gives_ofExcept ..).mp gives
  have due : found.due configuration store = .ofAnalysis configuration store found analysis := by
    rw [Occurrence.due, analysed]
  change Work.Tells Action.caveat? _ (found.warnings configuration store)
  rw [Occurrence.warnings, due]
  cases Due.ofAnalysis configuration store found analysis with
  | nothing => exact (Work.tells_modify _).followed fun _ => Work.tells_pure _
  | missingEntry =>
    exact (Work.tells_note _).followed fun _ =>
      (Work.tells_modify _).followed fun _ => Work.tells_pure _
  | relocate value =>
    exact (Work.tells_note _).followed fun _ =>
      (Work.tells_modify _).followed fun _ => Work.tells_pure _

/-- Relocation of occurrences has a caveat for each entry that is missing. -/
theorem tells_occurrences (found : List Occurrence) (progress : Progress) :
    Work.Tells Action.caveat? (occurrences configuration store found progress)
      (found.flatMap (Occurrence.warnings configuration store)) := by
  induction found generalizing progress with
  | nil => exact Work.tells_pure progress
  | cons first rest inductionHypothesis =>
    exact Work.tells_bind (tells_occurrence configuration store first progress)
      fun _ _ after _ => inductionHypothesis after

/-- Adding companions has no caveats. -/
theorem tells_addCompanions (new uses : List AnnotationUse) :
    Work.Tells Action.caveat? (addCompanions new uses) [] := by
  induction new generalizing uses with
  | nil => exact Work.tells_pure uses
  | cons first rest inductionHypothesis =>
    rw [addCompanions]
    split
    · exact inductionHypothesis uses
    · exact (Work.tells_note _).followed fun _ =>
        (Work.tells_modify _).followed fun _ => inductionHypothesis (insertUse first uses)

/-- The work on a body has the caveats of the occurrences of its members. -/
theorem tells_body (file : String) (position : ClassPosition) (given : List Member) :
    Work.Tells Action.caveat? (body configuration store file position given)
      ((given.flatMap (Occurrence.ofMember configuration file position)).flatMap
        (Occurrence.warnings configuration store)) := by
  rw [List.flatMap_assoc]
  refine (Work.tells_forEach fun given _ => ?_).followed fun _ => Work.tells_pure _
  exact ((tells_occurrences configuration store _ _).followed fun progress =>
      (tells_addCompanions progress.companions progress.annotations).followed fun _ =>
        Work.tells_pure _).followed fun _ => Work.tells_pure _

end Relocation

namespace Apply

variable (configuration : Configuration) (store : Store) (unit : CompilationUnit)

/-- The visit of a class that completes has the caveats of the occurrences of the class. -/
theorem tells_visit (position : ClassPosition) :
    Work.Tells Action.caveat? ((visit configuration store unit).at
        (classChange configuration store unit) position)
      ((Occurrence.ofClass configuration unit.sourcePath position).flatMap
        (Occurrence.warnings configuration store)) := by
  have alike := position.given_alike (classChange configuration store unit)
  rw [Visitor.at, visit]
  refine Work.tells_bind (Work.tells_mapFailure _ (Synthesis.tells_fields _ _ _ _))
    fun before middle given made => ?_
  rw [Work.gives_mapFailure, Synthesis.gives_fields, made_of_alike position _ alike] at made
  obtain ⟨_, _, rfl⟩ := made
  rw [← occurrences_inserted configuration store unit position _ alike]
  refine Work.tells_bind (Work.tells_modify _) fun _ _ _ _ => ?_
  refine (Work.tells_mapFailure _ (Relocation.tells_body _ _ _ _ _)).followed fun changed => ?_
  cases changed <;> exact Work.tells_pure _

/-- The change of a file that completes has the caveats of the occurrences of the file, class by
class as they are visited. -/
theorem tells_change :
    Work.Tells Action.caveat? (change configuration store unit)
      ((unit.visits.flatMap (Occurrence.ofClass configuration unit.sourcePath)).flatMap
        (Occurrence.warnings configuration store)) := by
  have rebuild : Work.Tells Action.caveat? (unit.rebuild (visit configuration store unit))
      ((unit.visits.flatMap (Occurrence.ofClass configuration unit.sourcePath)).flatMap
        (Occurrence.warnings configuration store)) := by
    rw [← Work.tells_forget_iff, unit.forget_rebuild visit_makes, Work.tells_forget_iff,
      List.flatMap_assoc]
    exact Work.tells_forEach fun position _ => tells_visit configuration store unit position
  refine rebuild.followed fun _ => Work.tells_state.followed fun _ => ?_
  split
  · exact Work.tells_pure _
  · exact (Work.tells_note _).followed fun _ => Work.tells_pure _

variable {configuration store unit}

/-- The work on a file has no caveats where every entry can be made a field and none is missing. -/
theorem tells_file
    (fillable : ∀ stored ∈ store.entries, ∃ field, stored.2.field unit.imports = .ok field)
    (stored : ∀ found ∈ Occurrence.ofUnit configuration unit,
      found.warnings configuration store = []) :
    Work.Tells Action.caveat? (file configuration store unit) [] := by
  have none : (unit.visits.flatMap (Occurrence.ofClass configuration unit.sourcePath)).flatMap
      (Occurrence.warnings configuration store) = [] := by
    rw [List.flatMap_eq_nil_iff]
    intro found inside
    obtain ⟨position, visited, inside⟩ := List.mem_flatMap.mp inside
    exact stored found
      (List.mem_flatMap.mpr ⟨position, unit.visits_perm.mem_iff.mp visited, inside⟩)
  have changed := tells_change configuration store unit
  rw [none] at changed
  rw [file]
  split
  · refine Work.caveats_inPhase _ _ fun _ _ report gives => ?_
    obtain ⟨tally, answer, completed, told, _⟩ := outcome_completes fillable gives
    rw [told]
    exact changed .zero tally answer completed
  · exact Work.tells_pure _

variable (configuration store unit)

/-- The occurrences that the second phase comes upon, in the classes as it finds them: with their
fields, and with their nested classes changed. -/
def encountered : List Occurrence :=
  unit.visits.flatMap fun position =>
    (Synthesis.insertFields (fieldsAt store unit position)
        (position.given (classChange configuration store unit)).body).flatMap
      (Occurrence.ofMember configuration unit.sourcePath position)

/-- The occurrences that the second phase comes upon are those of the scan, in the order of visits.
-/
theorem encountered_perm :
    (encountered configuration store unit).Perm (Occurrence.ofUnit configuration unit) := by
  have same : encountered configuration store unit =
      unit.visits.flatMap (Occurrence.ofClass configuration unit.sourcePath) :=
    List.flatMap_congr fun position _ =>
      occurrences_inserted configuration store unit position _ (position.given_alike _)
  rw [same, Occurrence.ofUnit]
  exact unit.visits_perm.flatMap_right _

/-- The second phase has dealt with the occurrences of a file as the scan has seen them. -/
structure Agrees (file : FileReport) : Prop where
  unfailed : file.errors = []
  encountered : (encountered configuration store unit).Perm (Occurrence.ofUnit configuration unit)
  reasons : ∀ found ∈ Occurrence.ofUnit configuration unit,
    found.leftFor? configuration store = found.skippedFor? configuration
  complete : ∀ found ∈ Occurrence.ofUnit configuration unit,
    found.leftFor? configuration store ≠ some .missingEntry
  skipped : file.tally.skipped = (Occurrence.ofUnit configuration unit).countP fun found =>
    (found.leftFor? configuration store).isSome
  total : file.tally.relocated + file.tally.skipped =
    (Occurrence.ofUnit configuration unit).length
  quiet : (Apply.file configuration store unit ()).known.filterMap Action.caveat? = []

variable {configuration store unit}

/-- Over a store that holds the entries for the occurrences of a file, the second phase deals with
the file as the scan has seen it. -/
theorem file_agrees (report : FileReport)
    (analysable : ∀ found ∈ Occurrence.ofUnit configuration unit, found.Analysable configuration)
    (stored : ∀ found ∈ Occurrence.ofUnit configuration unit, ∀ key anchor,
      found.Keyed configuration key anchor → ∃ entry, store.get? key = some entry)
    (fillable : ∀ stored ∈ store.entries, ∃ field, stored.2.field unit.imports = .ok field)
    (gives : (file configuration store unit).Gives () () report) :
    Agrees configuration store unit report := by
  have migrates := file_makes fillable report gives
  have reasons : ∀ found ∈ Occurrence.ofUnit configuration unit,
      found.leftFor? configuration store = found.skippedFor? configuration ∧
        found.warnings configuration store = [] := fun found inside =>
    Occurrence.leftFor?_of_stored (analysable found inside) (stored found inside)
  have tally : report.tally.skipped = (Occurrence.ofUnit configuration unit).countP
        (fun found => !(found.due configuration store).moves) ∧
      report.tally.relocated = (Occurrence.ofUnit configuration unit).countP
        (fun found => (found.due configuration store).moves) := by
    rw [migrates.counted]
    split
    · exact ⟨skipped_unitTally configuration store unit,
        relocated_unitTally configuration store unit⟩
    · rename_i untouched
      rw [Occurrence.ofUnit_of_untouched configuration unit untouched]
      exact ⟨rfl, rfl⟩
  refine
    { unfailed := by rw [FileReport.errors, migrates.unfailed]; rfl
      encountered := encountered_perm configuration store unit
      reasons := fun found inside => (reasons found inside).1
      complete := fun found inside => ?_
      skipped := ?_
      total := ?_
      quiet := tells_file fillable (fun found inside => (reasons found inside).2) () () report
        gives }
  · rw [(reasons found inside).1]
    exact Occurrence.skippedFor?_ne_missingEntry
  · rw [tally.1]
    refine List.countP_congr fun found inside => ?_
    rw [Occurrence.isSome_leftFor? (analysable found inside)]
  · rw [tally.1, tally.2, List.length_eq_countP_add_countP
      fun found => (Occurrence.due configuration store found).moves]
    simp

end Apply

/-- A run that scans the occurrences of its files in any order deals with every file as the scan has
seen it. -/
theorem ReturnsInOrder.agrees {configuration : Configuration} {units : List CompilationUnit}
    {order : List Occurrence} {report : RunReport}
    (returned : ReturnsInOrder configuration units order report)
    (whole : ∀ unit ∈ units, ∀ found ∈ Occurrence.ofUnit configuration unit, found ∈ order) :
    List.Forall₂ (Apply.Agrees configuration
      (order.foldl (ScanState.scan configuration) (.starting .empty)).store) units
      report.files := by
  have records := ScanState.records_foldl configuration order
  obtain ⟨analysable, worked, _⟩ := (returnsInOrder_iff ..).mp returned
  rw [List.forall₂_iff_zip] at worked ⊢
  refine ⟨worked.1, ?_⟩
  intro unit file paired
  have listed := (List.of_mem_zip paired).1
  exact Apply.file_agrees file
    (fun found inside => analysable found (whole unit listed found inside))
    (fun found inside => records.complete found (whole unit listed found inside))
    (records.fillable unit.imports) (worked.2 paired)

/-- A run that returns makes known what the scan does, and then what the second phase does with what
the scan leaves. -/
theorem known_run {configuration : Configuration} {units : List CompilationUnit}
    {report : RunReport} (returned : (run configuration units ()).outcome = .ok report) :
    (run configuration units ()).known =
      (Scan.batch configuration units (.starting .empty)).known ++
        (Apply.batch configuration (scanned configuration units).store units ()).known := by
  obtain ⟨state, scan, _⟩ := (run_returns_phases configuration units report).mp returned
  obtain ⟨_, rfl⟩ := (Scan.completes_batch ..).mp scan
  rw [run]
  rcases ended : Scan.batch configuration units (.starting .empty) with ⟨state, known, outcome⟩
  rw [Work.Gives, ended] at scan
  obtain ⟨rfl, rfl⟩ := scan
  rfl

/-- The trace of a run that returns has the caveats of its scan and no others. -/
theorem run_caveats (configuration : Configuration) (units : List CompilationUnit)
    (report : RunReport) (returned : (run configuration units ()).outcome = .ok report) :
    (run configuration units ()).known.filterMap Action.caveat? =
      (Occurrence.ofBatch configuration units).flatMap (Occurrence.skipEvents configuration) := by
  obtain ⟨state, scan, apply, _⟩ := (run_returns_phases configuration units report).mp returned
  obtain ⟨analysable, rfl⟩ := (Scan.completes_batch ..).mp scan
  have records := scanned_records configuration units
  have quiet : Work.Tells Action.caveat?
      (Apply.batch configuration (scanned configuration units).store units) [] := by
    have files := Work.tells_forEach fun unit (listed : unit ∈ units) =>
      Apply.tells_file (records.fillable unit.imports) fun found inside =>
        have within := List.mem_flatMap.mpr ⟨unit, listed, inside⟩
        (Occurrence.leftFor?_of_stored (analysable found within)
          (records.complete found within)).2
    rw [List.flatMap_eq_nil_iff.mpr fun _ _ => rfl] at files
    exact Work.caveats_inPhase _ _ files
  have first := Scan.tells_batch configuration units _ _ _ scan
  have second := quiet _ _ _ apply
  rw [known_run returned, List.filterMap_append, first, second, List.append_nil]

/-- Whenever a run returns, the second phase has come upon the occurrences of the scan, has left
each for the reason for which the scan skipped it, and has relocated the others. No file fails, no
entry is missing, and the trace of the run has no warning: of what was left as it is, it says in
order what the scan skipped. The same holds of files if their occurrences are scanned in turns.

Classes come to the second phase changed, but alike in their header, fields and methods; so it finds
the same occurrences, and under their keys the entries that the scan made, which can all be made
fields. -/
theorem phases_agree (configuration : Configuration) (units : List CompilationUnit) :
    (∀ report, (run configuration units ()).outcome = .ok report →
      List.Forall₂ (Apply.Agrees configuration (scanned configuration units).store) units
          report.files ∧
        ((Trace.empty.performAll (run configuration units ()).known).records.map
            Record.event).filter Event.isCaveat =
          (Occurrence.ofBatch configuration units).flatMap
            (Occurrence.skipEvents configuration)) ∧
      ∀ order report, Interleaves (units.map (Occurrence.ofUnit configuration)) order →
        ReturnsInOrder configuration units order report →
        List.Forall₂ (Apply.Agrees configuration
            (order.foldl (ScanState.scan configuration) (.starting .empty)).store) units
            report.files ∧
          (Work.forEach (Scan.occurrence configuration) order
              (.starting .empty)).known.filterMap Action.caveat? =
            order.flatMap (Occurrence.skipEvents configuration) := by
  refine ⟨fun report returned => ⟨?_, ?_⟩, fun order report merged returned => ⟨?_, ?_⟩⟩
  · exact ((run_returns_in_order configuration units report).mp returned).agrees
      fun unit listed found inside => List.mem_flatMap.mpr ⟨unit, listed, inside⟩
  · rw [Trace.caveats_performAll, run_caveats configuration units report returned]
  · exact returned.agrees fun unit listed found inside =>
      (merged.mem_iff found).mpr ⟨_, List.mem_map_of_mem listed, inside⟩
  · obtain ⟨state, analyses, scan, _⟩ := returned
    exact Work.tells_forEach (fun found _ => Scan.tells_occurrence configuration found) _ _ _ scan

/-- Of the three occurrences of the assorted class, two are relocated; the third is skipped and left
for its kind, which is all that the trace says of what was left as it is. -/
theorem phases_agree_on_assorted :
    ∃ report, (run {} [assortedClass] ()).outcome = .ok report ∧
      report.files.map FileReport.tally = [⟨1, 2, 2, 1⟩] ∧
      List.Forall₂ (Apply.Agrees {} (scanned {} [assortedClass]).store) [assortedClass]
        report.files ∧
      ((Trace.empty.performAll (run {} [assortedClass] ()).known).records.map
        Record.event).filter Event.isCaveat =
          [.note (.skipped "M.field" "unsupported_kind" "")] := by
  obtain ⟨agrees, caveats⟩ := (phases_agree {} [assortedClass]).1 _ rfl
  exact ⟨_, rfl, rfl, agrees, caveats⟩

end TypedDefaults
