import TypedDefaults.Proofs.Counterparts

/-!
# The homes of synthesized fields

The field of an entry is added to the class of the occurrence for which the
entry was made. There it is the only member of its name: the name is none that
the class declared, and no other entry of the file has it. For the latter reason
it is added nowhere else either.
-/

namespace TypedDefaults

open Java Synthesis

/-- No two classes of the file have one qualified name. -/
def Java.CompilationUnit.NamedApart (unit : CompilationUnit) : Prop :=
  (unit.positions.map fun position => position.type.qualifiedName).Nodup

/-- The types of classes are nested in one another as their declarations are. -/
def Java.CompilationUnit.WellNested (unit : CompilationUnit) : Prop :=
  ∀ position ∈ unit.positions,
    position.type.chain = position.chain.map fun declaration => declaration.header.type

instance (unit : CompilationUnit) : Decidable unit.NamedApart :=
  inferInstanceAs (Decidable (List.Nodup _))

instance (unit : CompilationUnit) : Decidable unit.WellNested :=
  inferInstanceAs (Decidable (∀ position ∈ unit.positions, _))

/-- The member declares a name. -/
def Java.Member.declares (name : String) (member : Member) : Bool :=
  member.declaredName? = some name

/-- Where classes are named apart, a name leads to one position. -/
theorem position_of_name {unit : CompilationUnit} (named : unit.NamedApart)
    {left right : ClassPosition} (first : left ∈ unit.positions) (second : right ∈ unit.positions)
    (same : left.type.qualifiedName = right.type.qualifiedName) : left = right :=
  List.inj_on_of_nodup_map named first second same

/-- In a list whose elements have distinct images, an image is that of one element. -/
theorem filter_of_nodup_map {α β : Type} [DecidableEq β] (image : α → β) (list : List α) (part : α)
    (distinct : (list.map image).Nodup) (inside : part ∈ list) :
    list.filter (fun other => image other = image part) = [part] := by
  induction list with
  | nil => cases inside
  | cons first rest inductionHypothesis =>
    rw [List.map_cons, List.nodup_cons] at distinct
    obtain ⟨absent, others⟩ := distinct
    rcases List.mem_cons.mp inside with rfl | later
    · rw [List.filter_cons_of_pos (by simp), List.filter_eq_nil_iff.mpr]
      intro other found
      rw [decide_eq_true_eq]
      intro same
      exact absent (List.mem_map.mpr ⟨other, found, same⟩)
    · rw [List.filter_cons_of_neg, inductionHypothesis others later]
      rw [decide_eq_true_eq]
      intro same
      exact absent (List.mem_map.mpr ⟨part, later, same.symm⟩)

/-- An entry that a run over a batch keeps, stored under a key for an occurrence of a file of the
batch. -/
structure Entry.Kept (configuration : Configuration) (units : List CompilationUnit)
    (unit : CompilationUnit) (entry : Entry) (occurrence : Occurrence) (key : Key)
    (anchor : Anchor) : Prop where
  stored : (key, entry) ∈ (scanned configuration units).store.entries
  here : occurrence ∈ Occurrence.ofUnit configuration unit
  made : entry.MadeFor configuration occurrence key anchor

/-- Of the entries stored for a file, at most one has a given field name. -/
theorem stored_of_name {configuration : Configuration} {units : List CompilationUnit}
    {first second : Key × Entry}
    (firstStored : first ∈ (scanned configuration units).store.entries)
    (secondStored : second ∈ (scanned configuration units).store.entries)
    (file : first.1.file = second.1.file) (name : first.2.fieldName = second.2.fieldName) :
    first = second :=
  List.inj_on_of_nodup_map (scanned_records configuration units).fields_apart firstStored
    secondStored (Prod.ext file name)

/-- Where files have paths of their own, an entry stored under a key of a file of the batch is kept
for an occurrence of the file. -/
theorem Entry.kept_of_stored {configuration : Configuration} {units : List CompilationUnit}
    {unit : CompilationUnit} {entry : Entry} {key : Key}
    (paths : (units.map CompilationUnit.sourcePath).Nodup) (listed : unit ∈ units)
    (stored : (key, entry) ∈ (scanned configuration units).store.entries)
    (file : key.file = unit.sourcePath) :
    ∃ occurrence anchor, entry.Kept configuration units unit occurrence key anchor := by
  obtain ⟨occurrence, seen, anchor, made⟩ :=
    (scanned_records configuration units).made (key, entry) stored
  obtain ⟨other, otherListed, here⟩ := List.mem_flatMap.mp seen
  have path : other.sourcePath = unit.sourcePath := by
    rw [← (Occurrence.file_of_mem_ofUnit here).1, ← made.keyed.file]
    exact file
  obtain rfl := List.inj_on_of_nodup_map paths otherListed listed path
  exact ⟨occurrence, anchor, stored, here, made⟩

/-- Where files have paths of their own, an occurrence with a key finds an entry that is kept for
an occurrence of the same file under a key of the same identity. -/
theorem Occurrence.Keyed.entry_kept {configuration : Configuration}
    {units : List CompilationUnit} {unit : CompilationUnit} {occurrence : Occurrence} {key : Key}
    {anchor : Anchor} (keyed : occurrence.Keyed configuration key anchor)
    (paths : (units.map CompilationUnit.sourcePath).Nodup) (listed : unit ∈ units)
    (found : occurrence ∈ Occurrence.ofUnit configuration unit) :
    ∃ entry first firstKey firstAnchor,
      (scanned configuration units).store.get? key = some entry ∧
      entry.Kept configuration units unit first firstKey firstAnchor ∧
      firstKey.identity = key.identity := by
  obtain ⟨entry, answered⟩ := (scanned_records configuration units).complete occurrence
    (List.mem_flatMap.mpr ⟨unit, listed, found⟩) key anchor keyed
  obtain ⟨firstKey, stored, same⟩ := Store.mem_of_get? _ key entry answered
  have file : firstKey.file = unit.sourcePath := by
    rw [← firstKey.file_identity, same, key.file_identity, keyed.file]
    exact (Occurrence.file_of_mem_ofUnit found).1
  obtain ⟨first, firstAnchor, kept⟩ := Entry.kept_of_stored paths listed stored file
  exact ⟨entry, first, firstKey, firstAnchor, answered, kept, same⟩

namespace Apply

variable {configuration : Configuration} {store : Store} {unit : CompilationUnit}

/-- A changed class declares the names of its fields and what it declared. -/
theorem declaredNames_changed (position : ClassPosition) :
    (position.changed (classChange configuration store unit)).declaredNames.Perm
      ((fieldsAt store unit position).map FieldDeclaration.name ++
        position.declaration.declaredNames) := by
  rw [ClassDeclaration.declaredNames, body_changed]
  refine ((insertFields_perm _ _).filterMap _).trans ?_
  rw [List.filterMap_append, List.filterMap_map, List.filterMap_map]
  have fields : (fieldsAt store unit position).filterMap
      (Member.declaredName? ∘ Member.field) =
        (fieldsAt store unit position).map FieldDeclaration.name := by
    rw [← List.filterMap_eq_map]
    rfl
  have members : List.filterMap
      (Member.declaredName? ∘ changedMember configuration store unit position)
      position.declaration.body = position.declaration.declaredNames := by
    exact List.filterMap_congr fun member _ => declaredName?_changedMember position member
  rw [fields, members]

/-- The fields of a class are named like the entries due for it. -/
theorem fieldsAt_names (configuration : Configuration) (units : List CompilationUnit)
    (unit : CompilationUnit) (position : ClassPosition) :
    (fieldsAt (scanned configuration units).store unit position).map FieldDeclaration.name =
      (due (scanned configuration units).store unit.sourcePath position.declaration).map
        Entry.fieldName := by
  rw [fieldsAt, made, List.map_filterMap, ← List.filterMap_eq_map]
  apply List.filterMap_congr
  intro entry inside
  obtain ⟨⟨key, stored, _⟩, _⟩ := (mem_due_iff ..).mp inside
  obtain ⟨_, _, _, made⟩ := (scanned_records configuration units).made (key, entry) stored
  obtain ⟨_, _, _, _, _, filled⟩ := made.field_exact unit.imports
  rw [filled]
  rfl

/-- No two entries of a file have one name. -/
theorem entriesOf_names_nodup (configuration : Configuration) (units : List CompilationUnit)
    (file : String) :
    (((scanned configuration units).store.entriesOf file).map Entry.fieldName).Nodup := by
  have named := (scanned_records configuration units).fields_apart.sublist
    ((List.filter_sublist (p := fun stored => decide (stored.1.file = file))).map _)
  rw [Store.entriesOf, List.map_map]
  refine List.Nodup.of_map (fun name => (file, name)) ?_
  rw [List.map_map]
  refine (List.map_congr_left fun stored inside => ?_) ▸ named
  obtain ⟨_, same⟩ := List.mem_filter.mp inside
  rw [← of_decide_eq_true same]
  rfl

/-- No two entries due for a class have one name. -/
theorem due_names_nodup (configuration : Configuration) (units : List CompilationUnit)
    (file : String) (declaration : ClassDeclaration) :
    ((due (scanned configuration units).store file declaration).map Entry.fieldName).Nodup := by
  have ofScope := (entriesOf_names_nodup configuration units file).sublist
    ((List.filter_sublist (p := fun entry : Entry =>
      decide (entry.scope.qualifiedName = declaration.header.type.qualifiedName))).map
        Entry.fieldName)
  have sorted := ((sortByName_perm _).map Entry.fieldName).nodup_iff.mpr ofScope
  exact sorted.sublist (List.filter_sublist.map Entry.fieldName)

end Apply

namespace Entry.Kept

variable {configuration : Configuration} {units : List CompilationUnit} {unit : CompilationUnit}
  {entry : Entry} {occurrence : Occurrence} {key : Key} {anchor : Anchor}

/-- The name of the field of an entry that is kept is new to its class. -/
theorem undeclared (kept : entry.Kept configuration units unit occurrence key anchor) :
    entry.fieldName ∉ occurrence.position.declaration.declaredNames := by
  intro declared
  apply kept.made.apart
  rw [ScanState.takenAt, List.mem_append]
  left
  rw [ClassPosition.visibleNames, List.mem_flatMap]
  exact ⟨_, List.mem_cons_self, declared⟩

/-- The field of an entry that is kept has the name that the entry has for it. -/
theorem name_field (kept : entry.Kept configuration units unit occurrence key anchor)
    {imports : List Import} {field : FieldDeclaration} (filled : entry.field imports = .ok field) :
    field.name = entry.fieldName := by
  obtain ⟨_, _, _, _, _, again⟩ := kept.made.field_exact imports
  obtain rfl := Except.ok.inj (again.symm.trans filled)
  rfl

/-- The class of the occurrence for which an entry is kept gets the field. -/
theorem field_added (kept : entry.Kept configuration units unit occurrence key anchor) :
    ∃ field, entry.field unit.imports = .ok field ∧ field.name = entry.fieldName ∧
      field ∈ Apply.fieldsAt (scanned configuration units).store unit occurrence.position := by
  obtain ⟨_, _, _, _, _, filled⟩ := kept.made.field_exact unit.imports
  refine ⟨_, filled, rfl, (mem_made_iff ..).mpr ⟨entry, (mem_due_iff ..).mpr ?_, filled⟩⟩
  refine ⟨⟨key, kept.stored, ?_⟩, ?_, kept.undeclared⟩
  · rw [kept.made.keyed.file, (Occurrence.file_of_mem_ofUnit kept.here).1]
  · rw [kept.made.scope]
    rfl

/-- In the changed class the field is the only member of its name. -/
theorem only_member (kept : entry.Kept configuration units unit occurrence key anchor) :
    ∃ field, entry.field unit.imports = .ok field ∧
      (occurrence.position.changed (Apply.classChange configuration
        (scanned configuration units).store unit)).body.filter
          (Member.declares entry.fieldName) = [.field field] := by
  obtain ⟨field, filled, named, added⟩ := kept.field_added
  refine ⟨field, filled, List.perm_singleton.mp ?_⟩
  rw [Apply.body_changed]
  refine ((insertFields_perm _ _).filter _).trans ?_
  have own : (occurrence.position.declaration.body.map (Apply.changedMember configuration
      (scanned configuration units).store unit occurrence.position)).filter
        (Member.declares entry.fieldName) = [] := by
    rw [List.filter_eq_nil_iff]
    intro member inside
    obtain ⟨before, declared, rfl⟩ := List.mem_map.mp inside
    intro declares
    apply kept.undeclared
    refine List.mem_filterMap.mpr ⟨before, declared, ?_⟩
    rw [← Apply.declaredName?_changedMember]
    exact of_decide_eq_true declares
  have distinct := Apply.due_names_nodup configuration units unit.sourcePath
    occurrence.position.declaration
  rw [← Apply.fieldsAt_names] at distinct
  have one := filter_of_nodup_map FieldDeclaration.name _ field distinct added
  rw [List.filter_append, own, List.append_nil, List.filter_map]
  have declares : Member.declares entry.fieldName ∘ Member.field =
      fun other : FieldDeclaration => decide (other.name = field.name) := by
    funext other
    rw [named]
    simp [Member.declares, Member.declaredName?]
  rw [declares, one]
  rfl

/-- The class of the occurrence for which an entry is kept comes to declare the name of the field.
-/
theorem declared_at_home (kept : entry.Kept configuration units unit occurrence key anchor) :
    entry.fieldName ∈ (occurrence.position.changed (Apply.classChange configuration
      (scanned configuration units).store unit)).declaredNames := by
  obtain ⟨field, _, only⟩ := kept.only_member
  have member : Member.field field ∈ (occurrence.position.changed (Apply.classChange
      configuration (scanned configuration units).store unit)).body.filter
        (Member.declares entry.fieldName) := by
    rw [only]
    exact List.mem_singleton_self _
  obtain ⟨inBody, declares⟩ := List.mem_filter.mp member
  exact List.mem_filterMap.mpr ⟨_, inBody, of_decide_eq_true declares⟩

/-- In the migrated file the class is the only one of its name. -/
theorem only_class (kept : entry.Kept configuration units unit occurrence key anchor)
    (named : unit.NamedApart) :
    (Apply.migrated configuration (scanned configuration units).store unit).positions.filter
        (fun position => position.type.qualifiedName = entry.scope.qualifiedName) =
      [occurrence.position.moved
        (Apply.classChange configuration (scanned configuration units).store unit)] := by
  have one := filter_of_nodup_map (fun place : ClassPosition => place.type.qualifiedName)
    unit.positions occurrence.position named (Occurrence.file_of_mem_ofUnit kept.here).2
  have same : (fun place : ClassPosition => decide
      (place.type.qualifiedName = entry.scope.qualifiedName)) ∘
        ClassPosition.moved (Apply.classChange configuration
          (scanned configuration units).store unit) =
      fun position => decide
        (position.type.qualifiedName = occurrence.position.type.qualifiedName) := by
    rw [kept.made.scope]
    rfl
  rw [Apply.positions_migrated, List.filter_map, same, one]
  rfl

/-- No other class comes to declare the name of the field. -/
theorem only_home (kept : entry.Kept configuration units unit occurrence key anchor)
    (named : unit.NamedApart) (position : ClassPosition) (placed : position ∈ unit.positions)
    (other : position ≠ occurrence.position)
    (undeclared : entry.fieldName ∉ position.declaration.declaredNames) :
    entry.fieldName ∉ (position.changed (Apply.classChange configuration
      (scanned configuration units).store unit)).declaredNames := by
  intro declared
  rw [(Apply.declaredNames_changed position).mem_iff, List.mem_append, Apply.fieldsAt_names]
    at declared
  rcases declared with added | before
  · obtain ⟨second, inside, sameName⟩ := List.mem_map.mp added
    obtain ⟨⟨secondKey, stored, file⟩, scope, _⟩ := (mem_due_iff ..).mp inside
    have sameFile : secondKey.file = key.file := by
      rw [file, kept.made.keyed.file, (Occurrence.file_of_mem_ofUnit kept.here).1]
    obtain ⟨_, rfl⟩ := Prod.mk.inj (stored_of_name stored kept.stored sameFile sameName)
    apply other
    apply position_of_name named placed (Occurrence.file_of_mem_ofUnit kept.here).2
    rw [kept.made.scope] at scope
    exact scope.symm
  · exact undeclared before

end Entry.Kept

end TypedDefaults
