import TypedDefaults.Proofs.Homes
import TypedDefaults.Proofs.Repetition
import TypedDefaults.Proofs.Returning

/-!
# Applying a store twice

The second phase reads a store that stays as it is, so its work on a file can be
done again, over the same store, on what it made of the file. What it could not
do it cannot do again. Where it did everything, the entries due for a class have
become members of the class, and the values that moved are gone; so nothing is
left to be done. For this each entry must be of one field, as every entry of a
scan is; entries may be broken, clash with what a class declares, or be missing.
An entry that is referred to by one name and makes a field of another is due
again after each application.
-/

namespace TypedDefaults

open Java

/-- An anchor that can be converted can be so once it is written again. -/
theorem convertible_requalified {imports : List Import} {anchor : Expression}
    {rewritten : Option Expression} (requalified : requalify imports anchor = .ok rewritten)
    (convertible : anchor.Convertible) : (rewritten.getD anchor).Convertible := by
  cases rewritten with
  | none => exact convertible
  | some again =>
    cases convertible with
    | fieldAccess target name type =>
      simp only [requalify] at requalified
      split at requalified
      · cases requalified
      · split at requalified
        · cases requalified
        · split at requalified <;> cases requalified
          exact .fieldAccess _ name type
    | _ => cases requalified

/-- An anchor that cannot be converted stays as it is. -/
theorem requalify_inconvertible (imports : List Import) {anchor : Expression}
    (inconvertible : ¬anchor.Convertible) : requalify imports anchor = .ok none := by
  cases anchor with
  | fieldAccess target name type => exact absurd (.fieldAccess target name type) inconvertible
  | _ => rfl

namespace Entry

/-- The imports of a file decide how the qualifier of an anchor is written. An anchor that no
template can convert has none, so it is the same under any imports. -/
theorem anchorIn_of_inconvertible {imports : List Import} (other : List Import) {entry : Entry}
    {anchor : Expression} (written : entry.anchorIn imports = .ok anchor)
    (inconvertible : ¬anchor.Convertible) : entry.anchorIn other = .ok anchor := by
  rw [anchorIn] at written ⊢
  cases context : entry.context with
  | resolvedLocally =>
    rw [context] at written
    exact written
  | requiresScopedTemplate =>
    simp only [context] at written ⊢
    by_cases access : entry.anchor.Convertible
    · cases requalified : requalify imports entry.anchor with
      | error unresolved =>
        rw [requalified] at written
        cases written
      | ok rewritten =>
        rw [requalified] at written
        obtain rfl := Except.ok.inj written
        exact absurd (convertible_requalified requalified access) inconvertible
    · rw [requalify_inconvertible imports access] at written
      rwa [requalify_inconvertible other access]

/-- An entry that is unfit under some imports is unfit under any, for the same reason. -/
theorem Unfit.other {imports : List Import} (other : List Import) {entry : Entry}
    {failure : FieldError} (unfit : entry.Unfit imports failure) : entry.Unfit other failure := by
  cases unfit with
  | withoutTemplate missing => exact .withoutTemplate missing
  | unresolved template target name type given elsewhere written unknown =>
    exact .unresolved template target name type given elsewhere written unknown
  | refused template anchor given written inconvertible =>
    exact .refused template anchor given (anchorIn_of_inconvertible other written inconvertible)
      inconvertible

/-- An entry that can be made a field under some imports can be so under any. -/
theorem fillable_other {imports : List Import} (other : List Import) {entry : Entry}
    (fillable : ∃ field, entry.field imports = .ok field) :
    ∃ field, entry.field other = .ok field := by
  cases refused : entry.field other with
  | ok field => exact ⟨field, rfl⟩
  | error failure =>
    obtain ⟨field, filled⟩ := fillable
    have unfit := ((field_error_iff other entry failure).mp refused).other imports
    rw [(field_error_iff imports entry failure).mpr unfit] at filled
    cases filled

end Entry

/-- An entry is of one field: its template, if it has one, makes the field by whose name the entry
is referred to. An entry of two names would be due again after each application. -/
def Entry.OfOneField (entry : Entry) : Prop :=
  ∀ template ∈ entry.template, template.fieldName = entry.fieldName

/-- All entries of a store are of one field each. -/
def Store.NamesFields (store : Store) : Prop := ∀ stored ∈ store.entries, stored.2.OfOneField

instance (entry : Entry) : Decidable entry.OfOneField :=
  match given : entry.template with
  | none => .isTrue fun template inside => by simp [given] at inside
  | some template => decidable_of_iff (template.fieldName = entry.fieldName) (by
      simp [Entry.OfOneField, given])

instance (store : Store) : Decidable store.NamesFields :=
  inferInstanceAs (Decidable (∀ stored ∈ store.entries, _))

/-- The template for a kind makes a field of the name that it is asked for. -/
theorem FieldTemplate.fieldName_ofKind? {fieldName : String} {kind : Kind}
    {template : FieldTemplate} (given : ofKind? fieldName kind = some template) :
    template.fieldName = fieldName := by
  obtain ⟨_, _, rfl⟩ := Option.map_eq_some_iff.mp given
  rfl

/-- Every entry that a scan stores is of one field. -/
theorem scanned_namesFields (configuration : Configuration) (units : List CompilationUnit) :
    (scanned configuration units).store.NamesFields := by
  intro stored inside template given
  obtain ⟨_, _, _, made⟩ := (scanned_records configuration units).made stored inside
  rw [Option.mem_def, made.template] at given
  exact FieldTemplate.fieldName_ofKind? given

/-- The field of an entry of one field has the entry's name. -/
theorem Entry.OfOneField.name_field {entry : Entry} (one : entry.OfOneField)
    {imports : List Import} {field : FieldDeclaration} (filled : entry.field imports = .ok field) :
    field.name = entry.fieldName := by
  rw [Entry.field] at filled
  split at filled
  · cases filled
  · rename_i template given
    split at filled
    · cases filled
    · rw [FieldTemplate.fill] at filled
      split at filled
      · obtain rfl := Except.ok.inj filled
        exact one template given
      · cases filled

namespace Apply

variable {configuration : Configuration} {store : Store} {unit : CompilationUnit}

/-- A file keeps its path. -/
theorem sourcePath_migrated :
    (migrated configuration store unit).sourcePath = unit.sourcePath := rfl

/-- An entry that is due for a class of a migrated file was due for the class before, and no field
that the class got has its name. -/
theorem due_migrated {moved : ClassPosition} {entry : Entry}
    (placed : moved ∈ (migrated configuration store unit).positions)
    (due : entry ∈ Synthesis.due store (migrated configuration store unit).sourcePath
      moved.declaration) :
    ∃ position ∈ unit.positions,
      entry ∈ Synthesis.due store unit.sourcePath position.declaration ∧
        entry.fieldName ∉ (fieldsAt store unit position).map FieldDeclaration.name := by
  rw [positions_migrated, List.mem_map] at placed
  obtain ⟨position, placed, rfl⟩ := placed
  rw [sourcePath_migrated] at due
  obtain ⟨stored, scope, undeclared⟩ := (Synthesis.mem_due_iff ..).mp due
  rw [ClassPosition.moved, (declaredNames_changed position).mem_iff, List.mem_append, not_or]
    at undeclared
  rw [ClassPosition.moved,
    ClassPosition.header_changed (classChange_keepsNesting configuration store unit)] at scope
  exact ⟨position, placed, (Synthesis.mem_due_iff ..).mpr ⟨stored, scope, undeclared.2⟩,
    undeclared.1⟩

/-- The work on a file in whose way nothing stands migrates it, if the run touches the file. -/
theorem file_migrates (clear : unit.visits.flatMap (obstacles configuration store unit) = []) :
    ∃ report, (file configuration store unit ()).outcome = .ok report ∧
      Migrates configuration store unit report := by
  rw [file]
  split
  · rename_i touched
    obtain ⟨changed, ended⟩ := outcome_of_clear clear
    exact ⟨_, ended, by simp [touched], by simp [touched], rfl⟩
  · rename_i untouched
    exact ⟨_, rfl, by simp [untouched, FileReport.untouched],
      by simp [untouched, FileReport.untouched]; rfl, rfl⟩

section

variable (apart : ∀ kind holder, Holder.name? kind = some holder →
    configuration.attributeHolder ≠ configuration.valueHolder ++ "." ++ holder)
  (once : ∀ use ∈ unit.annotations, use.AssignsOnce configuration.attributeName)
  (clear : unit.visits.flatMap (obstacles configuration store unit) = [])

include apart once

/-- No value in a migrated file moves. -/
theorem still_migrated (found : Occurrence)
    (left : found ∈ Occurrence.ofUnit configuration (migrated configuration store unit)) :
    (found.due configuration store).moves = false := by
  obtain ⟨survivor, _, still, file, type, value⟩ := survivor_of_mem_migrated apart once found left
  rw [survivor.moves_congr found file type value, still]

include clear

/-- Where nothing stood in the way of a file, nothing does when it is migrated. -/
theorem clear_migrated :
    (migrated configuration store unit).visits.flatMap
      (obstacles configuration store (migrated configuration store unit)) = [] := by
  obtain ⟨fillable, analysable⟩ := clear_iff.mp clear
  refine clear_iff.mpr ⟨?_, ?_⟩
  · intro moved placed entry due
    obtain ⟨position, before, due, _⟩ := due_migrated placed due
    exact Entry.fillable_other _ (fillable position before entry due)
  · intro found left
    obtain ⟨survivor, inside, _, file, type, value⟩ :=
      survivor_of_mem_migrated apart once found left
    rw [Occurrence.Analysable, survivor.analyse_congr configuration found file type value]
    exact analysable survivor inside

/-- Where nothing stood in the way of a file and entries are of one field each, there is nothing
left to do: each entry that was due for a class has become a member of its name. -/
theorem settled_migrated (named : store.NamesFields) :
    Settled configuration store (migrated configuration store unit) where
  complete := by
    intro moved placed
    refine List.eq_nil_iff_forall_not_mem.mpr fun entry due => ?_
    obtain ⟨position, before, due, absent⟩ := due_migrated placed due
    obtain ⟨field, filled⟩ := (clear_iff.mp clear).1 position before entry due
    obtain ⟨⟨key, stored, _⟩, _⟩ := (Synthesis.mem_due_iff ..).mp due
    apply absent
    rw [← (named (key, entry) stored).name_field filled]
    exact List.mem_map_of_mem ((Synthesis.mem_made_iff ..).mpr ⟨entry, due, filled⟩)
  analysable := (clear_iff.mp (clear_migrated apart once clear)).2
  still := still_migrated apart once

end

/-- A file that could not be worked on, or that the run does not touch, is given back. -/
theorem migrated_or_given_back {report : FileReport}
    (returned : (file configuration store unit ()).outcome = .ok report) :
    (report.unit = unit ∧ report.changed = false ∧ report.tally = .zero) ∨
      (unit.visits.flatMap (obstacles configuration store unit) = [] ∧
        report.unit = migrated configuration store unit ∧ report.errors = []) := by
  by_cases touched : configuration.touches unit = true
  · rw [file, if_pos touched] at returned
    change (outcome configuration store unit ()).outcome = _ at returned
    cases obstructed : unit.visits.flatMap (obstacles configuration store unit) with
    | nil =>
      obtain ⟨changed, ended⟩ := outcome_of_clear obstructed
      obtain rfl := Except.ok.inj (ended.symm.trans returned)
      exact .inr ⟨rfl, rfl, rfl⟩
    | cons first others =>
      rw [outcome_of_obstacle first others obstructed] at returned
      cases first with
      | oversized numeral => cases returned
      | template failure =>
        obtain rfl := Except.ok.inj returned
        exact .inl ⟨rfl, rfl, rfl⟩
  · rw [file, if_neg touched] at returned
    obtain rfl := Except.ok.inj returned
    exact .inl ⟨rfl, rfl, rfl⟩

/-- The work on a file, over any store, can be done again on what it made of the file: it returns
with the same errors and relocates nothing. If the entries of the store are of one field each, it
gives the file back as it is and adds no field.

A file that was given back is so again. Otherwise nothing stood in the way of the file, and then
nothing stands in the way of the migrated one; the entries due there were due before, and the
values there are those that did not move. -/
theorem file_stable (configuration : Configuration) (store : Store) (unit : CompilationUnit)
    (report : FileReport)
    (apart : ∀ kind holder, Holder.name? kind = some holder →
      configuration.attributeHolder ≠ configuration.valueHolder ++ "." ++ holder)
    (once : ∀ use ∈ unit.annotations, use.AssignsOnce configuration.attributeName)
    (returned : (file configuration store unit ()).outcome = .ok report) :
    ∃ again, (file configuration store report.unit ()).outcome = .ok again ∧
      again.errors = report.errors ∧ again.tally.relocated = 0 ∧
      (store.NamesFields →
        again.unit = report.unit ∧ again.changed = false ∧ again.tally.fieldsAdded = 0) := by
  rcases migrated_or_given_back returned with
    ⟨same, unchanged, counted⟩ | ⟨clear, result, unfailed⟩
  · have added : report.tally.fieldsAdded = 0 := by rw [counted]; rfl
    have relocated : report.tally.relocated = 0 := by rw [counted]; rfl
    exact ⟨report, by rw [same, returned], rfl, relocated, fun _ => ⟨rfl, unchanged, added⟩⟩
  · rw [result]
    obtain ⟨again, ended, migrates⟩ := file_migrates (clear_migrated apart once clear)
    refine ⟨again, ended, ?_, ?_, ?_⟩
    · rw [unfailed, FileReport.errors, migrates.unfailed]
      rfl
    · rw [migrates.counted]
      split
      · rw [relocated_unitTally, List.countP_eq_zero]
        intro found left
        rw [still_migrated apart once found left]
        exact Bool.false_ne_true
      · rfl
    · intro named
      have left := (settled_migrated apart once clear named).file_leaves.2
      obtain rfl := Except.ok.inj (ended.symm.trans left)
      exact ⟨rfl, rfl, rfl⟩

/-- A store for the file of a container, a number and a member of an unsupported type: an entry that
is due for its class, one whose name the class declares, and one without template for a class that
the file lacks. For the container there is none. -/
def assortedStore : Store :=
  let words := Expression.literal "\"a,b\"" none
  let template := fun name => FieldTemplate.ofKind? name .list
  ⟨[(.literal "M.java" "\"a,b\"",
      ⟨"words", .list, template "words", .resolvedLocally, words, .topLevel "p.M"⟩),
    (.literal "M.java" "\"c\"",
      ⟨"field", .list, template "field", .resolvedLocally, words, .topLevel "p.M"⟩),
    (.literal "M.java" "\"d\"", ⟨"lost", .list, none, .resolvedLocally, words, .topLevel "p.Z"⟩)]⟩

/-- Of a container, a number and a member of an unsupported type, the first application adds one
field and relocates the number; another finds nothing to do. -/
theorem file_stable_assorted :
    ∃ report, (file {} assortedStore assortedClass ()).outcome = .ok report ∧
      report.tally = ⟨1, 1, 1, 2⟩ ∧
      ∃ again, (file {} assortedStore report.unit ()).outcome = .ok again ∧
        again.errors = report.errors ∧ again.tally.relocated = 0 ∧
          again.unit = report.unit ∧ again.changed = false ∧ again.tally.fieldsAdded = 0 := by
  obtain ⟨again, ended, errors, relocated, stable⟩ :=
    file_stable {} assortedStore assortedClass _ Configuration.default_apart (by decide) rfl
  exact ⟨_, rfl, rfl, again, ended, errors, relocated, stable (by decide)⟩

/-- A store for the file of a container, a number and a member of an unsupported type: its entry is
referred to by one name, and makes a field of another. -/
def misnamedStore : Store :=
  let words := Expression.literal "\"a,b\"" none
  ⟨[(.literal "M.java" "\"a,b\"",
      ⟨"words", .list, FieldTemplate.ofKind? "other" .list, .resolvedLocally, words,
        .topLevel "p.M"⟩)]⟩

/-- The field of an entry of two names is added by the second application as by the first. -/
theorem misnamed_field_added_again :
    (∀ kind holder, Holder.name? kind = some holder →
      Configuration.attributeHolder {} ≠ Configuration.valueHolder {} ++ "." ++ holder) ∧
      (∀ use ∈ assortedClass.annotations, use.AssignsOnce (Configuration.attributeName {})) ∧
      ∃ report again, (file {} misnamedStore assortedClass ()).outcome = .ok report ∧
        (file {} misnamedStore report.unit ()).outcome = .ok again ∧
        again.unit ≠ report.unit ∧ again.changed = true ∧ again.tally.fieldsAdded = 1 := by
  exact ⟨Configuration.default_apart, by decide, _, _, rfl, rfl, by decide, rfl, rfl⟩

end Apply

end TypedDefaults
