import TypedDefaults.Proofs.Accounts

/-!
# Traces of runs

A run returns a report, and leaves a trace. The scan accounts for the entries, and
the work on the classes of each file for the changes of the tree; what is left is
the import of a file, which is told exactly if it is a new one, and the sums over
the files. The companions that the trace tells of are those that the files have
got, as annotations beside those that they had.
-/

namespace TypedDefaults

open Java

/-- The types of the events of a trace, in order. -/
def Trace.types (trace : Trace) : List EventType :=
  trace.records.map fun record => record.event.type

/-- The event is the begin or the end of a phase. -/
def EventType.isPhase (type : EventType) : Bool := type = .phaseStart || type = .phaseEnd

/-- The events that are no phases are noted events. -/
theorem Event.noted?_eq_some {event : Event} (noPhase : event.type.isPhase = false) :
    event.noted? = some event := by
  cases event with
  | note noted => rfl
  | _ => cases noPhase

/-- The actions of a trace that starts from nothing are its events, phases apart. -/
theorem Trace.noted_records (actions : List Action) :
    (Trace.empty.performAll actions).records.filterMap (fun record => record.event.noted?) =
      actions.filterMap Action.noted? :=
  Trace.noted_performAll Trace.empty actions

/-- The events of a type other than of phases are counted among the actions. -/
theorem Trace.count_types (actions : List Action) (type : EventType)
    (noPhase : type.isPhase = false) :
    (Trace.empty.performAll actions).types.count type = actions.countP (Action.isOf type) := by
  have counted : actions.countP (Action.isOf type) =
      (actions.filterMap Action.noted?).countP fun event => event.type = type := by
    rw [List.countP_filterMap]
    refine List.countP_congr fun action _ => ?_
    rw [Action.isOf]
    cases action.noted? <;> rfl
  rw [counted, ← noted_records, List.countP_filterMap, types, List.count, List.countP_map]
  refine List.countP_congr fun record _ => ?_
  rw [Function.comp_apply, beq_iff_eq]
  constructor
  · rintro rfl
    rw [Event.noted?_eq_some noPhase]
    exact decide_eq_true rfl
  · intro noted
    cases event : record.event with
    | note note =>
      rw [event] at noted
      exact of_decide_eq_true noted
    | _ =>
      rw [event] at noted
      cases noted

/-- Nothing is changed before an entry is recorded or found again. -/
def Trace.Ordered (trace : Trace) : Prop :=
  trace.types.Pairwise fun earlier later =>
    earlier = .treeMutation → later ≠ .entryRecorded ∧ later ≠ .entryReused

/-- If no event of a type is counted, none is among the events. -/
theorem Action.type_ne_of_countP {actions : List Action} {type : EventType}
    (none : actions.countP (Action.isOf type) = 0) (event : Event)
    (inside : event ∈ actions.filterMap Action.noted?) : event.type ≠ type := by
  intro same
  obtain ⟨action, among, noted⟩ := List.mem_filterMap.mp inside
  refine List.countP_eq_zero.mp none action among ?_
  rw [Action.isOf, noted]
  exact decide_eq_true same

/-- A trace is ordered if actions that change nothing are followed by actions that record no
entries. -/
theorem Trace.ordered_performAll (front back : List Action)
    (still : front.countP (Action.isOf .treeMutation) = 0)
    (recorded : back.countP (Action.isOf .entryRecorded) = 0)
    (reused : back.countP (Action.isOf .entryReused) = 0) :
    (Trace.empty.performAll (front ++ back)).Ordered := by
  have events : ((front ++ back).filterMap Action.noted?).Pairwise fun earlier later =>
      earlier.type = .treeMutation → later.type ≠ .entryRecorded ∧ later.type ≠ .entryReused := by
    rw [List.filterMap_append, List.pairwise_append]
    refine ⟨?_, ?_, ?_⟩
    · exact List.pairwise_of_forall_mem_list fun earlier inside _ _ changed =>
        absurd changed (Action.type_ne_of_countP still earlier inside)
    · exact List.pairwise_of_forall_mem_list fun _ _ later inside _ =>
        ⟨Action.type_ne_of_countP recorded later inside,
          Action.type_ne_of_countP reused later inside⟩
    · exact fun earlier inside _ _ changed =>
        absurd changed (Action.type_ne_of_countP still earlier inside)
  rw [← noted_records, List.pairwise_filterMap] at events
  rw [Ordered, types, List.pairwise_map]
  refine events.imp fun {earlier later} ordered changed => ?_
  have here := ordered _ (Event.noted?_eq_some (by rw [changed]; rfl))
  constructor
  · intro recorded
    exact (here _ (Event.noted?_eq_some (by rw [recorded]; rfl)) changed).1 recorded
  · intro reused
    exact (here _ (Event.noted?_eq_some (by rw [reused]; rfl)) changed).2 reused

/-- The number of events of a type among actions that make so many changes of the tree and so many
imports. -/
def amountTold (changes imports : Nat) : EventType → Nat
  | .treeMutation => changes
  | .importAction => imports
  | _ => 0

/-- Among the actions are so many changes of the tree and so many imports, and no entries are
recorded or found again. The actions close the phases that they open. -/
structure Told (changes imports : Nat) (known : List Action) : Prop where
  counted : ∀ type ∈ Tally.accounted,
    known.countP (Action.isOf type) = amountTold changes imports type
  bracketed : Bracketed known

namespace Told

variable {changes others imports further : Nat} {first second known : List Action}

theorem nothing : Told 0 0 [] where
  counted := by
    intro type _
    cases type <;> rfl
  bracketed := .nothing

/-- The numbers of changes and imports among actions add up, one after the other. -/
theorem append (front : Told changes imports first) (back : Told others further second) :
    Told (changes + others) (imports + further) (first ++ second) where
  counted := by
    intro type inside
    rw [List.countP_append, front.counted type inside, back.counted type inside]
    cases type <;> rfl
  bracketed := front.bracketed.append back.bracketed

/-- The note of an import is one import. -/
theorem import_noted (name file : String) : Told 0 1 [.note (.imported name file)] where
  counted := by
    intro type _
    cases type <;> rfl
  bracketed := .noted _

/-- A phase around actions is neither a change nor an import. -/
theorem inPhase (name detail : String) (inside : Told changes imports known) :
    Told changes imports (.openPhase name detail :: known ++ [.closePhase]) where
  counted := by
    intro type counted
    rw [List.cons_append, List.countP_cons, List.countP_append, inside.counted type counted]
    rfl
  bracketed := inside.bracketed.inPhase name detail

/-- Actions that account for a tally from nothing tell of its changes, and of no imports. -/
theorem of_accounts {tally : Tally}
    (accounts : Accounts Tally.amount Tally.accounted .zero known tally) :
    Told tally.changes 0 known where
  counted := by
    intro type inside
    have counted := accounts.counted type inside
    rw [Tally.amount_zero, Nat.zero_add] at counted
    rw [← counted]
    cases type <;> rfl
  bracketed := accounts.bracketed

end Told

namespace Apply

variable {configuration : Configuration} {store : Store} {unit : CompilationUnit}

/-- The new imports of a file, if it gets them, are not those that it had. -/
theorem newImports_ne {tally : Tally} {imports extended : List Import}
    (new : newImports configuration tally imports = some extended) : extended ≠ imports := by
  simp only [newImports] at new
  split at new
  · cases new
  · split at new
    · cases new
    · rename_i other
      obtain rfl := Option.some.inj new
      exact other

/-- The change of a file that completes tells of the changes that it counts, and of an import
exactly if the imports are new. -/
theorem change_told {tally : Tally} {answer : Option CompilationUnit}
    (gives : (change configuration store unit).Gives .zero tally answer) :
    Told tally.changes (if (answer.getD unit).imports = unit.imports then 0 else 1)
      (change configuration store unit .zero).known := by
  rw [change] at gives ⊢
  obtain ⟨_, rebuilt, worked, later⟩ := (Work.gives_bind ..).mp gives
  have told : Told _ 0 _ := .of_accounts (accounted_rebuild _ _ _ worked)
  have kept : (rebuilt.getD unit).imports = unit.imports := by
    rw [(unit.rebuild_makes visit_makes _ _ _ worked).1]
    rfl
  obtain ⟨_, counted, read, ended⟩ := (Work.gives_bind ..).mp later
  rw [Work.known_bind worked, Work.known_bind read]
  obtain ⟨rfl, rfl⟩ := (Work.gives_state ..).mp read
  cases imported : newImports configuration counted unit.imports with
  | none =>
    rw [imported] at ended
    obtain ⟨rfl, rfl⟩ := (Work.gives_pure ..).mp ended
    rw [if_pos kept]
    exact told.append .nothing
  | some imports =>
    rw [imported] at ended
    simp only [Work.gives_bind, Work.gives_note, Work.gives_pure] at ended
    obtain ⟨_, _, rfl, rfl, rfl⟩ := ended
    rw [if_neg]
    · exact told.append (Told.import_noted configuration.valueHolder unit.sourcePath)
    · exact newImports_ne imported

/-- The work on a file tells of the changes that are reported of it, and of an import exactly if the
imports are new. -/
theorem file_told
    (fillable : ∀ stored ∈ store.entries, ∃ field, stored.2.field unit.imports = .ok field)
    {report : FileReport} (gives : (file configuration store unit).Gives () () report) :
    Told report.tally.changes (if report.unit.imports = unit.imports then 0 else 1)
      (file configuration store unit ()).known := by
  rw [file] at gives ⊢
  split at gives
  · rename_i touched
    rw [Work.gives_inPhase] at gives
    obtain ⟨tally, answer, completed, known, rfl⟩ := outcome_completes fillable gives
    have told := change_told completed
    rw [← known] at told
    rw [if_pos touched]
    exact told.inPhase _ _
  · rename_i untouched
    rw [if_neg untouched]
    obtain ⟨_, rfl⟩ := (Work.gives_pure ..).mp gives
    rw [if_pos (by rfl)]
    exact .nothing

/-- The work on several files tells of the changes that are reported of them, added up, and of as
many imports as files have new imports. -/
theorem forEach_told {units : List CompilationUnit} {files : List FileReport}
    (fillable : ∀ imports, ∀ stored ∈ store.entries, ∃ field, stored.2.field imports = .ok field)
    (worked : List.Forall₂ (fun unit file => (Apply.file configuration store unit).Gives () () file)
      units files) :
    Told (files.map fun file => file.tally.changes).sum
      ((units.zip files).countP fun pair => pair.2.unit.imports ≠ pair.1.imports)
      (Work.forEach (file configuration store) units ()).known := by
  induction worked with
  | nil => exact .nothing
  | cons first rest inductionHypothesis =>
    rename_i unit report units files
    have later := (Work.gives_forEach_stateless ..).mpr rest
    have imported : ((unit, report) :: units.zip files).countP
          (fun pair => pair.2.unit.imports ≠ pair.1.imports) =
        (if report.unit.imports = unit.imports then 0 else 1) +
          (units.zip files).countP fun pair => pair.2.unit.imports ≠ pair.1.imports := by
      rw [List.countP_cons, Nat.add_comm]
      by_cases same : report.unit.imports = unit.imports <;> simp [same]
    rw [Work.forEach, Work.known_bind first, Work.known_bind later, List.map_cons, List.sum_cons,
      List.zip_cons_cons, imported]
    refine (file_told (fillable unit.imports) first).append ?_
    rw [Work.pure_apply, List.append_nil]
    exact inductionHypothesis

end Apply

/-- A file has got annotations, each of which is a companion, beside those that it had. These have
their types still, though they may have lost an argument. -/
structure Java.CompilationUnit.Accompanied (configuration : Configuration)
    (unit output : CompilationUnit) (attached : List AnnotationUse) : Prop where
  companions : ∀ use ∈ attached, ∃ kind value, companion configuration kind value = some use
  beside : ∃ kept : List AnnotationUse, output.annotations.Perm (attached ++ kept) ∧
    kept.map AnnotationUse.type = unit.annotations.map AnnotationUse.type

section

variable {configuration : Configuration} {store : Store} {unit : CompilationUnit}

/-- A relocated member has got the companions that are counted. -/
theorem Relocation.relocatedUses_attached (configuration : Configuration) (store : Store)
    (file : String) (position : ClassPosition) (member : Member) :
    ∃ attached : List AnnotationUse,
      attached ⊆ companionsOf configuration store file position member ∧
      (relocatedUses configuration store file position member).Perm
        (attached ++ strippedUses configuration store file position member) ∧
      attached.length = (memberTally configuration store file position member).companions := by
  obtain ⟨attached, among, same⟩ := attachUse_perm
    (companionsOf configuration store file position member)
    (strippedUses configuration store file position member)
  refine ⟨attached, among, same, ?_⟩
  let share : Tally →+ Nat := ⟨⟨Tally.companions, rfl⟩, fun _ _ => rfl⟩
  have counted : (memberTally configuration store file position member).companions =
      (relocatedUses configuration store file position member).length -
        member.annotations.length := by
    change share (memberTally configuration store file position member) = _
    rw [memberTally, map_add, Apply.share_dues share rfl rfl, Nat.zero_add]
    rfl
  have stripped : (strippedUses configuration store file position member).length =
      member.annotations.length := List.length_map _
  have whole := same.length_eq
  rw [List.length_append, stripped] at whole
  rw [counted, relocatedUses, whole, Nat.add_sub_cancel]

namespace Apply

/-- A migrated file has got the companions that are counted. -/
theorem migrated_accompanied :
    ∃ attached : List AnnotationUse,
      attached.length = (unitTally configuration store unit).companions ∧
      unit.Accompanied configuration (migrated configuration store unit) attached := by
  choose attached among same counted using
    fun position => Relocation.relocatedUses_attached configuration store unit.sourcePath position
  refine ⟨unit.positions.flatMap fun position => position.declaration.body.flatMap
    (attached position), ?_, ?_, unit.positions.flatMap fun position =>
      position.declaration.header.annotations ++ position.declaration.body.flatMap
        (Relocation.strippedUses configuration store unit.sourcePath position), ?_, ?_⟩
  · refine Eq.trans ?_ (share_classTallies ⟨⟨Tally.companions, rfl⟩, fun _ _ => rfl⟩ configuration
      store unit).symm
    rw [List.length_flatMap]
    refine congrArg List.sum (List.map_congr_left fun position _ => ?_)
    rw [List.length_flatMap]
    refine Eq.trans ?_ (Nat.zero_add _).symm
    exact congrArg List.sum (List.map_congr_left fun member _ => counted position member)
  · intro use inside
    obtain ⟨position, _, inside⟩ := List.mem_flatMap.mp inside
    obtain ⟨member, _, inside⟩ := List.mem_flatMap.mp inside
    obtain ⟨found, _, companion⟩ := List.mem_filterMap.mp (among position member inside)
    obtain ⟨value, _, made⟩ := Option.bind_eq_some_iff.mp companion
    exact ⟨found.kind, value, made⟩
  · rw [annotations_migrated]
    refine List.Perm.trans (List.Perm.flatMap_left _ fun position _ => ?_)
      (List.flatMap_append_perm ..).symm
    have members := (List.Perm.flatMap_left position.declaration.body fun member _ =>
      same position member).trans (List.flatMap_append_perm ..).symm
    exact (members.append_left _).trans (List.perm_append_comm_assoc ..)
  · rw [CompilationUnit.annotations, List.map_flatMap, List.map_flatMap]
    refine List.flatMap_congr fun position _ => ?_
    rw [List.map_append, List.map_append, List.map_flatMap, List.map_flatMap]
    refine congrArg _ (List.flatMap_congr fun member _ => ?_)
    rw [Relocation.strippedUses, List.map_map]
    exact List.map_congr_left fun use _ => Relocation.type_strippedUse _ _ _ use

/-- A file has got the companions that are reported of it. -/
theorem Migrates.accompanied {report : FileReport}
    (migrates : Migrates configuration store unit report) :
    ∃ attached : List AnnotationUse, attached.length = report.tally.companions ∧
      unit.Accompanied configuration report.unit attached := by
  rw [migrates.result, migrates.counted]
  split
  · exact migrated_accompanied
  · exact ⟨[], rfl, by simp, _, List.Perm.refl _, rfl⟩

end Apply

end

/-- Skipped occurrences are counted among the caveats. -/
theorem Action.countP_skipped (actions : List Action) :
    actions.countP (Action.isOf .occurrenceSkipped) =
      (actions.filterMap Action.caveat?).countP
        fun event => event.type = .occurrenceSkipped := by
  rw [List.countP_filterMap]
  refine List.countP_congr fun action _ => ?_
  rw [Action.isOf, Action.caveat?]
  cases action.noted? with
  | none => rfl
  | some event =>
    rw [Option.any_some, Option.filter_some, Event.isCaveat]
    cases type : event.type <;> simp [type]

/-- The scan notes the occurrences that it skips, one by one. -/
theorem Occurrence.countP_skipEvents (configuration : Configuration) (found : List Occurrence) :
    (found.flatMap (skipEvents configuration)).countP
        (fun event => event.type = .occurrenceSkipped) =
      found.countP fun one => (one.skippedFor? configuration).isSome := by
  rw [List.countP_flatMap, ← sum_indicator]
  refine congrArg List.sum (List.map_congr_left fun one _ => ?_)
  rw [Function.comp_apply, skipEvents]
  cases one.skippedFor? configuration <;> rfl

/-- The scan of a run that returns notes the entries that it leaves, and no changes. -/
theorem scan_told {configuration : Configuration} {units : List CompilationUnit}
    {report : RunReport} (returned : (run configuration units ()).outcome = .ok report) :
    (∀ type ∈ ScanState.accounted,
      (Scan.batch configuration units (.starting .empty)).known.countP (Action.isOf type) =
        ScanState.amount type (scanned configuration units)) ∧
      Bracketed (Scan.batch configuration units (.starting .empty)).known := by
  obtain ⟨state, scan, _⟩ := (run_returns_phases configuration units report).mp returned
  obtain rfl := ((Scan.completes_batch ..).mp scan).2
  have accounts := Scan.accounted_batch configuration units _ _ _ scan
  refine ⟨fun type inside => ?_, accounts.bracketed⟩
  have nothing : ScanState.amount type (.starting .empty) = 0 := ite_self 0
  have counted := accounts.counted type inside
  rw [nothing, Nat.zero_add] at counted
  exact counted.symm

/-- The second phase of a run that returns tells of the changes and imports of the files. -/
theorem apply_told {configuration : Configuration} {units : List CompilationUnit}
    {report : RunReport} (returned : (run configuration units ()).outcome = .ok report) :
    Told (report.files.map fun file => file.tally.changes).sum
      ((units.zip report.files).countP fun pair => pair.2.unit.imports ≠ pair.1.imports)
      (Apply.batch configuration (scanned configuration units).store units ()).known := by
  obtain ⟨_, worked, _⟩ := (run_returns_iff configuration units report).mp returned
  have files := Apply.forEach_told
    (fun imports => (scanned_records configuration units).fillable imports) worked
  exact files.inPhase "Apply" (Scan.batchDetail units)

/-- The files of a run that returns are reported with as many skipped occurrences as the scan has
skipped. -/
theorem sum_skipped {configuration : Configuration} {units : List CompilationUnit}
    {report : RunReport} (returned : (run configuration units ()).outcome = .ok report) :
    (report.files.map fun file => file.tally.skipped).sum =
      (Occurrence.ofBatch configuration units).countP fun found =>
        (found.skippedFor? configuration).isSome := by
  have agrees := ((run_returns_in_order configuration units report).mp returned).agrees
    fun unit listed found inside => List.mem_flatMap.mpr ⟨unit, listed, inside⟩
  rw [Occurrence.ofBatch, List.countP_flatMap]
  refine congrArg List.sum (map_eq_map_of_forall₂ (agrees.flip.imp fun file unit agreed => ?_))
  rw [agreed.skipped]
  refine List.countP_congr fun found inside => ?_
  rw [agreed.reasons found inside]

/-- The trace of a run on files agrees with its report. Each record stands under the phase that is
open, the phases close one another in turn, and all are closed in the end; entries come before
changes of the tree; and of entries, skipped occurrences, imports and changes there are as many as
the report says. -/
structure Trace.Matches (configuration : Configuration) (units : List CompilationUnit)
    (report : RunReport) (trace : Trace) : Prop where
  nested : Trace.replay? 0 [] trace.records = some []
  ordered : trace.Ordered
  entries : trace.types.count .entryRecorded = report.entries
  skipped : trace.types.count .occurrenceSkipped =
    (report.files.map fun file => file.tally.skipped).sum
  imports : trace.types.count .importAction =
    (units.zip report.units).countP fun pair => pair.2.imports ≠ pair.1.imports
  changes : trace.types.count .treeMutation = (report.files.map fun file =>
    file.tally.fieldsAdded + file.tally.relocated + file.tally.companions).sum
  companions : List.Forall₂ (fun unit (file : FileReport) => ∃ attached : List AnnotationUse,
    attached.length = file.tally.companions ∧ unit.Accompanied configuration file.unit attached)
    units report.files

/-- The trace that a run leaves, if it starts from nothing, agrees with the report that the run
returns.

The scan and the work on the files are told one after the other. What is counted by either grows
with the events of its type, so it is enough that nothing is counted at the start. -/
theorem trace_matches_report (configuration : Configuration) (units : List CompilationUnit)
    (report : RunReport) (returned : (run configuration units ()).outcome = .ok report) :
    (Trace.empty.performAll (run configuration units ()).known).Matches configuration units
      report := by
  obtain ⟨_, worked, entries⟩ := (run_returns_iff configuration units report).mp returned
  obtain ⟨scanCounts, scanBracketed⟩ := scan_told returned
  have apply := apply_told returned
  have events : ∀ type : EventType, type.isPhase = false →
      (Trace.empty.performAll (run configuration units ()).known).types.count type =
        (Scan.batch configuration units (.starting .empty)).known.countP (Action.isOf type) +
          (Apply.batch configuration (scanned configuration units).store units
            ()).known.countP (Action.isOf type) := by
    intro type noPhase
    rw [Trace.count_types _ type noPhase, known_run returned, List.countP_append]
  constructor
  · rw [known_run returned]
    exact (scanBracketed.append apply.bracketed).replayed
  · rw [known_run returned]
    exact Trace.ordered_performAll _ _ (scanCounts .treeMutation (by decide))
      (apply.counted .entryRecorded (by decide)) (apply.counted .entryReused (by decide))
  · rw [events .entryRecorded rfl, scanCounts .entryRecorded (by decide),
      apply.counted .entryRecorded (by decide), entries]
    rfl
  · rw [Trace.count_types _ .occurrenceSkipped rfl, Action.countP_skipped,
      run_caveats configuration units report returned, Occurrence.countP_skipEvents,
      sum_skipped returned]
  · rw [events .importAction rfl, scanCounts .importAction (by decide),
      apply.counted .importAction (by decide), RunReport.units, List.zip_map_right,
      List.countP_map]
    exact Nat.zero_add _
  · rw [events .treeMutation rfl, scanCounts .treeMutation (by decide),
      apply.counted .treeMutation (by decide)]
    exact Nat.zero_add _
  · exact (run_migrates configuration units report returned).imp
      fun _ _ migrates => migrates.accompanied

/-- Of two files, one is changed in five places, which come after the only entry. -/
theorem trace_matches_report_beside_plain :
    ∃ report trace, (run {} [assortedClass, plainClass] ()).outcome = .ok report ∧
      trace = Trace.empty.performAll (run {} [assortedClass, plainClass] ()).known ∧
      trace.Matches {} [assortedClass, plainClass] report ∧
      report.files.map FileReport.tally = [⟨1, 2, 2, 1⟩, 0] ∧
      trace.types =
        [.phaseStart, .phaseStart, .entryRecorded, .occurrenceSkipped, .phaseEnd, .phaseEnd,
         .phaseStart, .phaseStart, .treeMutation, .treeMutation, .treeMutation, .treeMutation,
         .treeMutation, .importAction, .phaseEnd, .phaseEnd] :=
  ⟨_, _, rfl, rfl, trace_matches_report {} [assortedClass, plainClass] _ rfl, rfl, rfl⟩

end TypedDefaults
