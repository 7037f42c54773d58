import TypedDefaults.Proofs.Migration
import TypedDefaults.Proofs.Visits

/-!
# Files that are left

What stands in the way of the work on a file can be listed in advance: class by
class in the order of visits, first the entries due for the class that cannot be
made a field, by field name, then the occurrences with a numeral that cannot be
read. The first of the list decides. If it is an entry, the file is left as it
is, with this one failure, whatever was done to other classes before; if it is a
numeral, the whole run ends; and if there is none, the file is migrated. All of
this holds over any store, also one that no scan leaves.
-/

namespace TypedDefaults

open Java

/-- An expression that a template can convert. -/
inductive Java.Expression.Convertible : Expression → Prop where
  | literal (token : String) (type : Option JavaType) : Convertible (.literal token type)
  | identifier (name : Identifier) : Convertible (.identifier name)
  | fieldAccess (target : Expression) (name : Identifier) (type : Option JavaType) :
      Convertible (.fieldAccess target name type)
  | call (name : String) (receiver : Option Expression) (arguments : List Expression)
      (type : Option JavaType) : Convertible (.call name receiver arguments type)

/-- Templates accept the convertible expressions. -/
theorem FieldTemplate.accepts_iff (anchor : Expression) :
    accepts anchor = true ↔ anchor.Convertible := by
  constructor
  · intro accepted
    cases anchor with
    | arrayInitializer elements => cases accepted
    | assignment target value => cases accepted
    | _ => constructor
  · intro convertible
    cases convertible <;> rfl

/-- An entry cannot be made a field: it has no template, its anchor would have to be written again
but has no symbol, or the anchor, written again or not, cannot be converted. -/
inductive Entry.Unfit (imports : List Import) (entry : Entry) : FieldError → Prop where
  | withoutTemplate (missing : entry.template = none) :
      Unfit imports entry (.entryWithoutTemplate entry.fieldName)
  | unresolved (template : FieldTemplate) (target : Expression) (name : Identifier)
      (type : Option JavaType) (given : entry.template = some template)
      (elsewhere : entry.context = .requiresScopedTemplate)
      (written : entry.anchor = .fieldAccess target name type) (unknown : name.symbol = none) :
      Unfit imports entry (.unresolvedAnchor ⟨entry.anchor.print⟩)
  | refused (template : FieldTemplate) (anchor : Expression)
      (given : entry.template = some template) (written : entry.anchorIn imports = .ok anchor)
      (inconvertible : ¬anchor.Convertible) :
      Unfit imports entry (.unfitAnchor template.fieldName anchor.describe)

/-- Only a field access without symbol cannot be written again. -/
theorem requalify_error_iff (imports : List Import) (expression : Expression)
    (unresolved : UnresolvedAnchor) :
    requalify imports expression = .error unresolved ↔
      ∃ target name type, expression = .fieldAccess target name type ∧ name.symbol = none ∧
        unresolved = ⟨expression.print⟩ := by
  constructor
  · intro refused
    cases expression with
    | fieldAccess target name type =>
      cases known : name.symbol with
      | none =>
        simp only [requalify, known, Except.error.injEq] at refused
        exact ⟨target, name, type, rfl, known, refused.symm⟩
      | some symbol =>
        simp only [requalify, known] at refused
        split at refused
        · cases refused
        · split at refused <;> cases refused
    | _ => cases refused
  · rintro ⟨target, name, type, rfl, unknown, rfl⟩
    simp only [requalify, unknown]

/-- The anchor of an entry cannot be written exactly if it has to be written again and has no
symbol. -/
theorem Entry.anchorIn_error_iff (imports : List Import) (entry : Entry) (failure : FieldError) :
    entry.anchorIn imports = .error failure ↔
      entry.context = .requiresScopedTemplate ∧
        ∃ target name type, entry.anchor = .fieldAccess target name type ∧ name.symbol = none ∧
          failure = .unresolvedAnchor ⟨entry.anchor.print⟩ := by
  rw [anchorIn]
  cases context : entry.context with
  | resolvedLocally => simp
  | requiresScopedTemplate =>
    simp only [true_and]
    cases requalified : requalify imports entry.anchor with
    | ok rewritten =>
      refine iff_of_false (by simp) ?_
      rintro ⟨target, name, type, written, unknown, _⟩
      have refused := (requalify_error_iff imports entry.anchor ⟨_⟩).mpr
        ⟨target, name, type, written, unknown, rfl⟩
      rw [requalified] at refused
      cases refused
    | error unresolved =>
      obtain ⟨target, name, type, written, unknown, rfl⟩ :=
        (requalify_error_iff ..).mp requalified
      simp only [Except.error.injEq]
      constructor
      · rintro rfl
        exact ⟨target, name, type, written, unknown, rfl⟩
      · rintro ⟨_, _, _, _, _, rfl⟩
        rfl

/-- An entry is refused as a field exactly if it is unfit, and for that reason. -/
theorem Entry.field_error_iff (imports : List Import) (entry : Entry) (failure : FieldError) :
    entry.field imports = .error failure ↔ entry.Unfit imports failure := by
  constructor
  · intro refused
    rw [field] at refused
    cases given : entry.template with
    | none =>
      rw [given] at refused
      obtain rfl := Except.error.inj refused
      exact .withoutTemplate given
    | some template =>
      rw [given] at refused
      cases written : entry.anchorIn imports with
      | error unresolved =>
        rw [written] at refused
        obtain rfl := Except.error.inj refused
        obtain ⟨elsewhere, target, name, type, access, unknown, rfl⟩ :=
          (anchorIn_error_iff ..).mp written
        exact .unresolved template target name type given elsewhere access unknown
      | ok anchor =>
        simp only [written, FieldTemplate.fill] at refused
        split at refused
        · cases refused
        · rename_i rejected
          obtain rfl := Except.error.inj refused
          exact .refused template anchor given written
            fun convertible => rejected ((FieldTemplate.accepts_iff anchor).mpr convertible)
  · intro unfit
    rw [field]
    cases unfit with
    | withoutTemplate missing => rw [missing]
    | unresolved template target name type given elsewhere written unknown =>
      rw [given, (anchorIn_error_iff imports entry _).mpr
        ⟨elsewhere, target, name, type, written, unknown, rfl⟩]
    | refused template anchor given written inconvertible =>
      simp only [given, written, FieldTemplate.fill,
        if_neg (mt (FieldTemplate.accepts_iff anchor).mp inconvertible)]

/-- The numeral for which the analysis of an occurrence does not end, if there is one. -/
def Occurrence.unread (configuration : Configuration) (found : Occurrence) :
    List OversizedNumeral :=
  Work.refusals (found.analyse configuration)

/-- What an entry fails with, if it cannot be made a field. -/
def Entry.defects (imports : List Import) (entry : Entry) : List FieldError :=
  Work.refusals (entry.field imports)

/-- An entry is defective exactly if it is unfit. -/
theorem Entry.mem_defects (imports : List Import) (entry : Entry) (failure : FieldError) :
    failure ∈ entry.defects imports ↔ entry.Unfit imports failure := by
  rw [defects, Work.mem_refusals, field_error_iff]

namespace Synthesis

/-- In the way of the fields of a class stand the defects of the entries due for it. -/
theorem failsFirst_fields {σ : Type} (store : Store) (imports : List Import) (file : String)
    (declaration : ClassDeclaration) :
    Work.FailsFirst (fields store imports file declaration : Work Action σ FieldError _)
      ((due store file declaration).flatMap (Entry.defects imports)) := by
  refine Work.failsFirst_forEach fun entry _ => ?_
  exact (Work.failsFirst_ofExcept (entry.field imports)).followed fun field =>
    (Work.failsFirst_note _).followed fun _ => Work.failsFirst_pure field

end Synthesis

namespace Relocation

variable (configuration : Configuration) (store : Store)

/-- In the way of an occurrence stands its analysis. -/
theorem failsFirst_occurrence (found : Occurrence) (progress : Progress) :
    Work.FailsFirst (occurrence configuration store found progress)
      (found.unread configuration) := by
  refine (Work.failsFirst_ofExcept (found.analyse configuration)).followed fun analysis => ?_
  cases Due.ofAnalysis configuration store found analysis with
  | nothing => exact (Work.failsFirst_modify _).followed fun _ => Work.failsFirst_pure _
  | missingEntry =>
    exact (Work.failsFirst_note _).followed fun _ =>
      (Work.failsFirst_modify _).followed fun _ => Work.failsFirst_pure _
  | relocate value =>
    exact (Work.failsFirst_note _).followed fun _ =>
      (Work.failsFirst_modify _).followed fun _ => Work.failsFirst_pure _

/-- In the way of occurrences stand their analyses. -/
theorem failsFirst_occurrences (found : List Occurrence) (progress : Progress) :
    Work.FailsFirst (occurrences configuration store found progress)
      (found.flatMap (Occurrence.unread configuration)) := by
  induction found generalizing progress with
  | nil => exact Work.failsFirst_pure progress
  | cons first rest inductionHypothesis =>
    exact Work.failsFirst_bind (failsFirst_occurrence configuration store first progress)
      fun _ _ after _ => inductionHypothesis after

/-- Nothing stands in the way of companions. -/
theorem failsFirst_addCompanions (new uses : List AnnotationUse) :
    Work.FailsFirst (addCompanions new uses) [] := by
  induction new generalizing uses with
  | nil => exact Work.failsFirst_pure uses
  | cons first rest inductionHypothesis =>
    rw [addCompanions]
    split
    · exact inductionHypothesis uses
    · exact (Work.failsFirst_note _).followed fun _ =>
        (Work.failsFirst_modify _).followed fun _ => inductionHypothesis (insertUse first uses)

/-- In the way of a body stand the analyses of the occurrences of its members. -/
theorem failsFirst_body (file : String) (position : ClassPosition) (given : List Member) :
    Work.FailsFirst (body configuration store file position given)
      ((given.flatMap (Occurrence.ofMember configuration file position)).flatMap
        (Occurrence.unread configuration)) := by
  rw [List.flatMap_assoc]
  refine (Work.failsFirst_forEach fun given _ => ?_).followed fun _ => Work.failsFirst_pure _
  exact ((failsFirst_occurrences configuration store _ _).followed fun progress =>
      (failsFirst_addCompanions progress.companions progress.annotations).followed fun _ =>
        Work.failsFirst_pure _).followed fun _ => Work.failsFirst_pure _

end Relocation

/-- The entry is stored for the file and for the name of the class, which has no field or method of
the entry's name yet. -/
def Entry.DueAt (store : Store) (unit : CompilationUnit) (position : ClassPosition)
    (entry : Entry) : Prop :=
  (∃ key, (key, entry) ∈ store.entries ∧ key.file = unit.sourcePath) ∧
    entry.scope.qualifiedName = position.type.qualifiedName ∧
    entry.fieldName ∉ position.declaration.declaredNames

/-- The entry's failure, where the work on a file was given up for an entry. -/
def ApplyFailure.template? : ApplyFailure → Option FieldError
  | .template failure => some failure
  | .oversized _ => none

namespace Apply

variable (configuration : Configuration) (store : Store) (unit : CompilationUnit)

/-- What stands in the way of the work on a class: entries that cannot be made its fields, and then
occurrences whose analysis does not end. -/
def obstacles (position : ClassPosition) : List ApplyFailure :=
  ((Synthesis.due store unit.sourcePath position.declaration).flatMap
      (Entry.defects unit.imports)).map .template ++
    ((Occurrence.ofClass configuration unit.sourcePath position).flatMap
      (Occurrence.unread configuration)).map .oversized

/-- The occurrences of a class are the same once fields are inserted and nested classes changed. -/
theorem occurrences_inserted (position : ClassPosition) (current : ClassDeclaration)
    (alike : position.declaration.Alike current) :
    (Synthesis.insertFields (fieldsAt store unit position) current.body).flatMap
        (Occurrence.ofMember configuration unit.sourcePath position) =
      Occurrence.ofClass configuration unit.sourcePath position := by
  refine flatMap_inserted position current alike _ fun member bare => ?_
  rw [Occurrence.ofMember, bare, Occurrence.ofAnnotations]

/-- The visit of a class fails first with what stands in its way, also where the class is given with
its nested classes changed. -/
theorem failsFirst_visit (position : ClassPosition) :
    Work.FailsFirst ((visit configuration store unit).at (classChange configuration store unit)
      position) (obstacles configuration store unit position) := by
  have alike := position.given_alike (classChange configuration store unit)
  have due : Synthesis.due store unit.sourcePath
      (position.given (classChange configuration store unit)) =
        Synthesis.due store unit.sourcePath position.declaration := by
    rw [Synthesis.due, Synthesis.due, alike.header, alike.declaredNames]
  rw [Visitor.at, visit, obstacles, ← due]
  refine Work.failsFirst_bind
    (Work.failsFirst_mapFailure _ (Synthesis.failsFirst_fields _ _ _ _)) ?_
  intro before middle fields made
  rw [Work.gives_mapFailure, Synthesis.gives_fields, made_of_alike position _ alike] at made
  obtain ⟨_, _, rfl⟩ := made
  rw [← occurrences_inserted configuration store unit position _ alike]
  refine Work.failsFirst_bind (Work.failsFirst_modify _) fun _ _ _ _ => ?_
  refine (Work.failsFirst_mapFailure _ (Relocation.failsFirst_body _ _ _ _ _)).followed
    fun changed => ?_
  cases changed <;> exact Work.failsFirst_pure _

/-- The change of a file fails first with what stands in the way of its classes, as they are
visited. -/
theorem failsFirst_change :
    Work.FailsFirst (change configuration store unit)
      (unit.visits.flatMap (obstacles configuration store unit)) := by
  have rebuild : Work.FailsFirst (unit.rebuild (visit configuration store unit))
      (unit.visits.flatMap (obstacles configuration store unit)) := by
    intro before failure
    rw [← Work.fails_forget, unit.forget_rebuild visit_makes, Work.fails_forget]
    exact Work.failsFirst_forEach
      (fun position _ => failsFirst_visit configuration store unit position) before failure
  refine rebuild.followed fun _ => Work.failsFirst_state.followed fun _ => ?_
  split
  · exact Work.failsFirst_pure _
  · exact (Work.failsFirst_note _).followed fun _ => Work.failsFirst_pure _

variable {configuration store unit}

/-- Where nothing stands in the way of a file, the work on it leaves it migrated. -/
theorem outcome_of_clear
    (clear : unit.visits.flatMap (obstacles configuration store unit) = []) :
    ∃ changed, (outcome configuration store unit ()).outcome =
      .ok ⟨unit.sourcePath, migrated configuration store unit, changed,
        unitTally configuration store unit, none⟩ := by
  have safe := failsFirst_change configuration store unit
  rw [clear] at safe
  obtain ⟨tally, answer, worked⟩ := safe.gives .zero
  obtain ⟨changed, counted⟩ := change_makes tally answer worked
  refine ⟨answer.isSome, ?_⟩
  rw [outcome]
  rcases ended : change configuration store unit .zero with ⟨reached, known, result⟩
  rw [Work.Gives, ended] at worked
  obtain ⟨rfl, rfl⟩ := worked
  rw [← changed, ← counted]

/-- Where something stands in the way of a file, the first of it decides: the file is left with the
failure of an entry, or the work fails with a numeral. -/
theorem outcome_of_obstacle (first : ApplyFailure) (others : List ApplyFailure)
    (obstructed : unit.visits.flatMap (obstacles configuration store unit) = first :: others) :
    (outcome configuration store unit ()).outcome =
      match first with
      | .template failure => .ok (.left unit failure)
      | .oversized numeral => .error numeral := by
  have failed : (change configuration store unit).Fails .zero first :=
    (failsFirst_change configuration store unit .zero first).mpr
      (by rw [obstructed, List.head?_cons])
  rw [outcome]
  rcases ended : change configuration store unit .zero with ⟨reached, known, result⟩
  rw [Work.Fails, ended] at failed
  subst failed
  cases first <;> rfl

/-- The fields that are due in a file, each with the position of the class that is to get it:
classes as they are visited, and for each class its entries by field name. -/
def orders (store : Store) (unit : CompilationUnit) : List (ClassPosition × Entry) :=
  unit.visits.flatMap fun position =>
    (Synthesis.due store unit.sourcePath position.declaration).map fun entry => (position, entry)

/-- The fields that are due are those of every class of the file. -/
theorem mem_orders_iff (order : ClassPosition × Entry) :
    order ∈ orders store unit ↔
      order.1 ∈ unit.positions ∧ order.2.DueAt store unit order.1 := by
  rcases order with ⟨position, entry⟩
  simp only [orders, List.mem_flatMap, List.mem_map, Prod.mk.injEq, unit.visits_perm.mem_iff,
    Synthesis.mem_due_iff, Entry.DueAt, ClassPosition.type]
  constructor
  · rintro ⟨_, placed, _, due, rfl, rfl⟩
    exact ⟨placed, due⟩
  · rintro ⟨placed, due⟩
    exact ⟨position, placed, entry, due, rfl, rfl⟩

/-- The entries due for a class stand in the order of their field names. -/
theorem due_ordered (store : Store) (file : String) (declaration : ClassDeclaration) :
    (Synthesis.due store file declaration).Pairwise
      fun first second => first.fieldName ≤ second.fieldName :=
  (Synthesis.sortByName_ordered _).filter _

/-- The entries that stand in the way of a file are the defective ones of those that are due, in
their order. -/
theorem filterMap_obstacles (configuration : Configuration) (store : Store)
    (unit : CompilationUnit) :
    (unit.visits.flatMap (obstacles configuration store unit)).filterMap ApplyFailure.template? =
      (orders store unit).flatMap fun order => order.2.defects unit.imports := by
  have ofClass : ∀ position,
      (obstacles configuration store unit position).filterMap ApplyFailure.template? =
        (Synthesis.due store unit.sourcePath position.declaration).flatMap
          (Entry.defects unit.imports) := by
    intro position
    rw [obstacles, List.filterMap_append, List.filterMap_map, List.filterMap_map]
    simp [Function.comp_def, ApplyFailure.template?]
  rw [List.filterMap_flatMap, orders, List.flatMap_assoc]
  refine List.flatMap_congr fun position _ => ?_
  rw [ofClass, List.flatMap_map]

/-- Where the first failure of an entry is known, so is the entry: it is unfit, and none of those
due before it is. -/
theorem first_unfit (failure : FieldError) (others : List FieldError)
    (first : ((orders store unit).flatMap fun order => order.2.defects unit.imports) =
      failure :: others) :
    ∃ earlier order later, orders store unit = earlier ++ order :: later ∧
      (∀ other ∈ earlier, ∀ reason, ¬other.2.Unfit unit.imports reason) ∧
      order.2.Unfit unit.imports failure := by
  obtain ⟨earlier, order, later, split, here, before⟩ :=
    (Work.head?_failures_iff _ _ failure).mp (by rw [first, List.head?_cons])
  refine ⟨earlier, order, later, split, ?_, ?_⟩
  · intro other inside reason unfit
    rw [← Entry.mem_defects, before other inside] at unfit
    cases unfit
  · exact (Entry.mem_defects ..).mp (List.mem_of_head? here)

/-- A file is left as it was, with one error, that of the first unfit entry among those that are
due. -/
structure LeftFor (store : Store) (unit : CompilationUnit) (report : FileReport)
    (failure : FieldError) : Prop where
  first : ∃ earlier order later, orders store unit = earlier ++ order :: later ∧
    (∀ other ∈ earlier, ∀ reason, ¬other.2.Unfit unit.imports reason) ∧
    order.2.Unfit unit.imports failure
  unchanged : report = ⟨unit.sourcePath, unit, false, .zero, some failure⟩
  told : report.errors = [failure.message]

/-- The work on a file that the run touches, over any store, reports an error exactly if an entry
that is due for one of its classes is unfit. Then the file is left as it was for the first unfit
one; classes are taken as they are visited, and the entries due for a class by field name.

The report depends on the first obstacle alone. If the work returns, this is no numeral; so it is
the first defect among the entries that are due, or there is no defect at all. -/
theorem file_fails_exactly (configuration : Configuration) (store : Store)
    (unit : CompilationUnit) (report : FileReport)
    (touched : configuration.touches unit = true)
    (returned : (file configuration store unit ()).outcome = .ok report) :
    (report.errors ≠ [] ↔
      ∃ position ∈ unit.positions, ∃ entry : Entry, entry.DueAt store unit position ∧
        ∃ failure, entry.Unfit unit.imports failure) ∧
      (report.errors ≠ [] → ∃ failure, LeftFor store unit report failure) ∧
      ∀ position ∈ unit.positions,
        (Synthesis.due store unit.sourcePath position.declaration).Pairwise
          fun first second => first.fieldName ≤ second.fieldName := by
  have pairs : (∃ position ∈ unit.positions, ∃ entry : Entry, entry.DueAt store unit position ∧
        ∃ failure, entry.Unfit unit.imports failure) ↔
      ∃ order ∈ orders store unit, ∃ failure, order.2.Unfit unit.imports failure := by
    simp only [mem_orders_iff, Prod.exists, and_assoc, exists_and_left]
  have defects := filterMap_obstacles configuration store unit
  rw [file, if_pos touched] at returned
  change (outcome configuration store unit ()).outcome = _ at returned
  rw [pairs, ← and_assoc]
  refine ⟨?_, fun position _ => due_ordered store unit.sourcePath position.declaration⟩
  cases obstructed : unit.visits.flatMap (obstacles configuration store unit) with
  | nil =>
    obtain ⟨changed, migrates⟩ := outcome_of_clear obstructed
    obtain rfl := Except.ok.inj (migrates.symm.trans returned)
    refine ⟨iff_of_false (by simp [FileReport.errors]) ?_, by simp [FileReport.errors]⟩
    rintro ⟨order, due, failure, unfit⟩
    rw [obstructed, List.filterMap_nil] at defects
    have none := List.flatMap_eq_nil_iff.mp defects.symm order due
    rw [← Entry.mem_defects, none] at unfit
    cases unfit
  | cons first others =>
    rw [outcome_of_obstacle first others obstructed] at returned
    cases first with
    | oversized numeral => cases returned
    | template failure =>
      obtain rfl := Except.ok.inj returned
      rw [obstructed] at defects
      have first := first_unfit failure _ defects.symm
      refine ⟨iff_of_true (by simp [FileReport.errors, FileReport.left]) ?_, fun _ =>
        ⟨failure, first, rfl, rfl⟩⟩
      obtain ⟨earlier, order, later, split, _, unfit⟩ := first
      exact ⟨order, by simp [split], failure, unfit⟩

/-- A file of a class with two nested ones, of which the first has a number to be migrated. -/
def nestedPair : CompilationUnit :=
  let outer := ClassType.topLevel "p.M"
  singleClass
    [.nested ⟨"K", .within "p.M.K" (some outer), [], []⟩
      [annotatedField (.primitive "int") (.literal "\"3\"" none)],
     .nested ⟨"N", .within "p.M.N" (some outer), [], []⟩ []]

/-- A store with an entry without template for the class `p.M`, and two entries for a class nested
in it: one without template, and one whose anchor is a list. -/
def brokenStore : Store :=
  let outer := ClassType.topLevel "p.M"
  let inner := ClassType.within "p.M.N" (some outer)
  let template := FieldTemplate.ofKind? "b" .int
  ⟨[(.literal "M.java" "x", ⟨"a", .int, none, .resolvedLocally, .literal "x" none, outer⟩),
    (.literal "M.java" "y", ⟨"c", .int, none, .resolvedLocally, .literal "y" none, inner⟩),
    (.literal "M.java" "z", ⟨"b", .int, template, .resolvedLocally, .arrayInitializer [], inner⟩)]⟩

/-- Of three unfit entries, the one whose anchor is a list is met first, when the number in the
other nested class is migrated already; the file is left for it, and nothing is counted. -/
theorem file_fails_in_nested :
    Configuration.touches {} nestedPair = true ∧
      ∃ report, (file {} brokenStore nestedPair ()).outcome = .ok report ∧
        report.failure =
          some (.unfitAnchor "b" (Expression.describe (.arrayInitializer []))) ∧
        (∃ position ∈ nestedPair.positions, ∃ entry : Entry,
          entry.DueAt brokenStore nestedPair position ∧
            ∃ failure, entry.Unfit nestedPair.imports failure) ∧
        ∃ failure, LeftFor brokenStore nestedPair report failure := by
  obtain ⟨fails, left, _⟩ := file_fails_exactly {} brokenStore nestedPair _ (by decide) rfl
  exact ⟨by decide, _, rfl, rfl, fails.mp (by decide), left (by decide)⟩

end Apply

end TypedDefaults
