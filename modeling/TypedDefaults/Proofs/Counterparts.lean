import TypedDefaults.Proofs.Migration

/-!
# Members and their counterparts

The files of a run come out in the order in which they went in, the classes of
each in their order, and the members of each class in theirs, apart from one
stretch of added fields. So every member has its counterpart in the output. It
is found by places alone; no name needs to be distinct for it.
-/

namespace TypedDefaults

open Java Synthesis

/-- A member of a batch, and the member in its place after the run. -/
structure Counterpart (units : List CompilationUnit) (report : RunReport)
    (unit output : CompilationUnit) (position place : ClassPosition) (member result : Member) :
    Prop where
  files : (unit, output) ∈ units.zip report.units
  classes : (position, place) ∈ unit.positions.zip output.positions
  members : ∃ fields kept, kept.length = position.declaration.body.length ∧
    place.declaration.body = insertFields fields kept ∧
      (member, result) ∈ position.declaration.body.zip kept

/-- In a list beside its image, every element stands beside its own. -/
theorem eq_of_mem_zip_map {α β : Type} (change : α → β) (list : List α) (part : α) (image : β)
    (inside : (part, image) ∈ list.zip (list.map change)) : image = change part := by
  have each : List.Forall₂ (fun part image => image = change part) list (list.map change) := by
    rw [List.forall₂_map_right_iff, List.forall₂_same]
    exact fun _ _ => rfl
  exact List.forall₂_zip each inside

/-- Every element of a list stands beside its image. -/
theorem mem_zip_map {α β : Type} (change : α → β) (list : List α) (part : α)
    (inside : part ∈ list) : (part, change part) ∈ list.zip (list.map change) := by
  induction list with
  | nil => cases inside
  | cons first rest inductionHypothesis =>
    rw [List.map_cons, List.zip_cons_cons, List.mem_cons]
    rcases List.mem_cons.mp inside with rfl | later
    · exact .inl rfl
    · exact .inr (inductionHypothesis later)

namespace Apply

variable {configuration : Configuration} {store : Store} {unit : CompilationUnit}

/-- The member with its own classes changed and its values relocated. -/
def changedMember (configuration : Configuration) (store : Store) (unit : CompilationUnit)
    (position : ClassPosition) (member : Member) : Member :=
  Relocation.relocated configuration store unit.sourcePath position
    (member.changed (classChange configuration store unit) position.chain)

/-- A changed member declares the name that it declared. -/
theorem declaredName?_changedMember (position : ClassPosition) (member : Member) :
    (changedMember configuration store unit position member).declaredName? =
      member.declaredName? := by
  cases member <;> simp [changedMember, Member.changed, Relocation.relocated,
    Member.withAnnotations, Member.declaredName?]

/-- The annotations of a changed member are those of the relocated member. -/
theorem annotations_changedMember (position : ClassPosition) (member : Member) :
    (changedMember configuration store unit position member).annotations =
      Relocation.relocatedUses configuration store unit.sourcePath position member := by
  rw [changedMember, Relocation.annotations_relocated]
  cases member with
  | nested header body =>
    rw [Member.changed_nested]
    rfl
  | _ => rw [Member.changed]

/-- The body of a changed class: the fields that it got, among its members changed one by one. -/
theorem body_changed (position : ClassPosition) :
    (position.changed (classChange configuration store unit)).body =
      insertFields (fieldsAt store unit position)
        (position.declaration.body.map (changedMember configuration store unit position)) := by
  rw [ClassPosition.changed, classChange, map_insertFields, ClassPosition.given,
    Member.changedAll_eq_map, List.map_map]
  · rfl
  · intro member
    cases member <;> rfl
  · intro field inside
    exact (Relocation.relocated_bare unit.sourcePath position (.field field)
      (fieldsAt_bare position field inside)).1

/-- A changed member is a field exactly if it was one. -/
theorem isField_changedMember (configuration : Configuration) (store : Store)
    (unit : CompilationUnit) (position : ClassPosition) (member : Member) :
    (changedMember configuration store unit position member).isField = member.isField := by
  cases member <;> simp [changedMember, Member.changed, Relocation.relocated,
    Member.withAnnotations, Member.isField]

/-- The fields that a class got stand in the place for them, whatever the configuration. -/
theorem body_changed_place (store : Store) (unit : CompilationUnit) (position : ClassPosition) :
    ∃ front back, position.declaration.body = front ++ back ∧ FieldPlace front back ∧
      ∀ configuration, (position.changed (classChange configuration store unit)).body =
        front.map (changedMember configuration store unit position) ++
          ((fieldsAt store unit position).map .field ++
            back.map (changedMember configuration store unit position)) := by
  obtain ⟨front, back, body, place, inserted⟩ :=
    insertFields_place (fieldsAt store unit position) position.declaration.body
  refine ⟨front, back, body, place, fun configuration => ?_⟩
  have fixed : ∀ field ∈ fieldsAt store unit position,
      changedMember configuration store unit position (.field field) = .field field := by
    intro field inside
    rw [changedMember, Member.changed]
    exact (Relocation.relocated_bare unit.sourcePath position (.field field)
      (fieldsAt_bare position field inside)).1
  have same : ((fieldsAt store unit position).map Member.field).map
      (changedMember configuration store unit position) =
        (fieldsAt store unit position).map .field := by
    rw [List.map_map]
    exact List.map_congr_left fixed
  rw [body_changed, ← map_insertFields _ _ _
    (isField_changedMember configuration store unit position) fixed, inserted, List.map_append,
    List.map_append, same]

end Apply

variable {configuration : Configuration} {units : List CompilationUnit} {report : RunReport}
  {unit output : CompilationUnit} {position place : ClassPosition} {member result : Member}

/-- What agrees part by part agrees as a list. -/
theorem map_eq_map_of_forall₂ {α β γ : Type} {left : α → γ} {right : β → γ} {first : List α}
    {second : List β} (same : List.Forall₂ (fun one other => left one = right other) first second) :
    first.map left = second.map right := by
  rwa [← List.forall₂_eq_eq_eq, List.forall₂_map_left_iff, List.forall₂_map_right_iff]

/-- The files of a run that returns are the files that it was given, those that it touches
migrated. -/
theorem run_units (returned : (run configuration units ()).outcome = .ok report) :
    report.units = units.map fun unit => if configuration.touches unit then
      Apply.migrated configuration (scanned configuration units).store unit else unit := by
  have migrates := run_migrates configuration units report returned
  exact map_eq_map_of_forall₂ (migrates.flip.imp fun file unit migrated => migrated.result)

/-- In the place of a file is the file as the run left it. -/
theorem run_output (returned : (run configuration units ()).outcome = .ok report)
    (files : (unit, output) ∈ units.zip report.units) :
    output = if configuration.touches unit then
      Apply.migrated configuration (scanned configuration units).store unit else unit := by
  rw [run_units returned] at files
  have left := eq_of_mem_zip_map _ _ _ _ files
  exact left

namespace Counterpart

/-- The file of a counterpart is the file as the run left it. -/
theorem output_exact
    (counterpart : Counterpart units report unit output position place member result)
    (returned : (run configuration units ()).outcome = .ok report) :
    output = if configuration.touches unit then
      Apply.migrated configuration (scanned configuration units).store unit else unit :=
  run_output returned counterpart.files

/-- In a touched file the class of a counterpart has been changed, and the member with it. -/
theorem touched_exact
    (counterpart : Counterpart units report unit output position place member result)
    (returned : (run configuration units ()).outcome = .ok report)
    (touched : configuration.touches unit = true) :
    place = position.moved
        (Apply.classChange configuration (scanned configuration units).store unit) ∧
      result = Apply.changedMember configuration (scanned configuration units).store unit position
        member := by
  have output := counterpart.output_exact returned
  rw [if_pos touched] at output
  have classes := counterpart.classes
  rw [output, Apply.positions_migrated] at classes
  have placed := eq_of_mem_zip_map _ _ _ _ classes
  refine ⟨placed, ?_⟩
  obtain ⟨fields, kept, length, body, members⟩ := counterpart.members
  rw [placed, ClassPosition.moved, Apply.body_changed] at body
  rw [← insertFields_injective _ _ _ _ (by rw [List.length_map, length]) body] at members
  exact eq_of_mem_zip_map _ _ _ _ members

/-- In a file that is not touched the counterpart of a member is the member. -/
theorem untouched_exact
    (counterpart : Counterpart units report unit output position place member result)
    (returned : (run configuration units ()).outcome = .ok report)
    (untouched : ¬configuration.touches unit = true) : result = member := by
  have output := counterpart.output_exact returned
  rw [if_neg untouched] at output
  have classes := counterpart.classes
  rw [output, ← List.map_id unit.positions] at classes
  have placed : place = position := by
    rw [List.map_id] at classes
    exact eq_of_mem_zip_map id _ _ _ (by rwa [List.map_id])
  obtain ⟨fields, kept, length, body, members⟩ := counterpart.members
  rw [placed, ← insertFields_nil position.declaration.body] at body
  rw [← insertFields_injective _ _ _ _ length.symm body] at members
  exact eq_of_mem_zip_map id _ _ _ (by rwa [List.map_id])

/-- The occurrences of a member that has a counterpart are occurrences of its file. -/
theorem mem_ofUnit
    (counterpart : Counterpart units report unit output position place member result)
    {found : Occurrence}
    (inside : found ∈ Occurrence.ofMember configuration unit.sourcePath position member) :
    found ∈ Occurrence.ofUnit configuration unit := by
  obtain ⟨_, _, _, _, members⟩ := counterpart.members
  exact (Occurrence.mem_ofUnit_iff ..).mpr
    ⟨position, (List.of_mem_zip counterpart.classes).1, member, (List.of_mem_zip members).1, inside⟩

/-- The annotations of a counterpart are those of the member, with its values relocated. -/
theorem annotations_exact
    (counterpart : Counterpart units report unit output position place member result)
    (returned : (run configuration units ()).outcome = .ok report) :
    result.annotations = Relocation.relocatedUses configuration (scanned configuration units).store
      unit.sourcePath position member := by
  by_cases touched : configuration.touches unit = true
  · rw [(counterpart.touched_exact returned touched).2, Apply.annotations_changedMember]
  · rw [counterpart.untouched_exact returned touched, Relocation.relocatedUses_of_still]
    intro found inside
    exact absurd (Occurrence.touches_of_mem_ofUnit configuration unit found
      (counterpart.mem_ofUnit inside)) touched

/-- Every member of a batch has a counterpart. -/
theorem of_member (returned : (run configuration units ()).outcome = .ok report)
    (listed : unit ∈ units) (placed : position ∈ unit.positions)
    (declared : member ∈ position.declaration.body) :
    ∃ output place result,
      Counterpart units report unit output position place member result := by
  have files := mem_zip_map (fun unit => if configuration.touches unit then
    Apply.migrated configuration (scanned configuration units).store unit else unit) units unit
    listed
  rw [← run_units returned] at files
  by_cases touched : configuration.touches unit = true
  · rw [if_pos touched] at files
    have classes := mem_zip_map (ClassPosition.moved (Apply.classChange configuration
      (scanned configuration units).store unit)) unit.positions position placed
    rw [← Apply.positions_migrated] at classes
    exact ⟨_, _, _, files, classes, _, _, List.length_map _, Apply.body_changed position,
      mem_zip_map _ _ _ declared⟩
  · rw [if_neg touched] at files
    have classes := mem_zip_map id unit.positions position placed
    have members := mem_zip_map id position.declaration.body member declared
    rw [List.map_id] at classes members
    exact ⟨_, _, _, files, classes, [], _, rfl, (insertFields_nil _).symm, members⟩

/-- Every annotated member of the output is the counterpart of a member: the fields that were added
have no annotations. -/
theorem of_result (returned : (run configuration units ()).outcome = .ok report)
    (files : (unit, output) ∈ units.zip report.units) (placed : place ∈ output.positions)
    (inside : result ∈ place.declaration.body) (annotated : result.annotations ≠ []) :
    ∃ position member, Counterpart units report unit output position place member result := by
  have migrated := run_output returned files
  by_cases touched : configuration.touches unit = true
  · rw [if_pos touched] at migrated
    have moved := placed
    rw [migrated, Apply.positions_migrated] at moved
    obtain ⟨position, before, rfl⟩ := List.mem_map.mp moved
    have classes := mem_zip_map (ClassPosition.moved (Apply.classChange configuration
      (scanned configuration units).store unit)) unit.positions position before
    rw [← Apply.positions_migrated, ← migrated] at classes
    have body : (position.changed (Apply.classChange configuration
        (scanned configuration units).store unit)).body = _ := Apply.body_changed position
    rw [ClassPosition.moved, body, (insertFields_perm _ _).mem_iff, List.mem_append] at inside
    rcases inside with added | kept
    · obtain ⟨field, among, rfl⟩ := List.mem_map.mp added
      exact absurd (Apply.fieldsAt_bare position field among) annotated
    · obtain ⟨member, declared, rfl⟩ := List.mem_map.mp kept
      exact ⟨position, member, files, classes, _, _, List.length_map _, body,
        mem_zip_map _ _ _ declared⟩
  · rw [if_neg touched] at migrated
    subst migrated
    have classes := mem_zip_map id output.positions place placed
    have members := mem_zip_map id place.declaration.body result inside
    rw [List.map_id] at classes members
    exact ⟨place, result, files, classes, [], _, rfl, (insertFields_nil _).symm, members⟩

/-- A member has only one counterpart. -/
theorem unique (left right : Member)
    (first : Counterpart units report unit output position place member left)
    (second : Counterpart units report unit output position place member right)
    (returned : (run configuration units ()).outcome = .ok report) : left = right := by
  by_cases touched : configuration.touches unit = true
  · rw [(first.touched_exact returned touched).2, (second.touched_exact returned touched).2]
  · rw [first.untouched_exact returned touched, second.untouched_exact returned touched]

end Counterpart

end TypedDefaults
