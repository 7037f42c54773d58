import Mathlib.Data.List.TakeWhile
import TypedDefaults.Proofs.Homes
import TypedDefaults.Proofs.Repetition

/-!
# What a run keeps

A run touches a file in three kinds of places. It puts at most one import among
the imports; it puts new fields into class bodies, in one stretch each; and in
front of a member it deletes the assignments of values that move, and puts at
most one companion beside them. The relation below allows exactly this, class by
class along the nesting, and every file of a run that returns stands in it to the
file that was given.
-/

namespace TypedDefaults

open Java Synthesis

/-- A list with at most one further element, which is of a certain sort. -/
inductive Inserted {α : Type} (fits : α → Prop) : List α → List α → Prop where
  | nothing (list : List α) : Inserted fits list list
  | one (front back : List α) (new : α) (fit : fits new) :
      Inserted fits (front ++ back) (front ++ new :: back)

/-- An annotation of a member, and what stands in its place. It is the same annotation where it
carries no occurrence or one that is skipped; otherwise the first argument that assigns the
attribute is gone, and nothing else. -/
inductive Java.AnnotationUse.Kept (configuration : Configuration) (file : String)
    (position : ClassPosition) (member : Member) : AnnotationUse → AnnotationUse → Prop where
  | whole (use : AnnotationUse)
      (still : ∀ index found,
        Occurrence.ofAnnotationUse? configuration file position member index use = some found →
        found.Skipped configuration) :
      Kept configuration file position member use use
  | stripped (use : AnnotationUse) (front back : List Expression) (target : Identifier)
      (value : Expression) (index : Nat) (found : Occurrence)
      (carried : Occurrence.ofAnnotationUse? configuration file position member index use =
        some found)
      (taken : ¬found.Skipped configuration)
      (written : use.arguments = some (front ++ .assignment target value :: back))
      (assigns : target.name = configuration.attributeName)
      (first : ∀ argument ∈ front, ¬argument.assigns configuration.attributeName = true) :
      Kept configuration file position member use { use with arguments := some (front ++ back) }

/-- The annotations of a member, and what stands there after a run: each is kept in its place, and
at most one companion for the kind of the member is put among them. -/
def Java.Member.AnnotationsKept (configuration : Configuration) (file : String)
    (position : ClassPosition) (member : Member) (after : List AnnotationUse) : Prop :=
  ∃ kept, List.Forall₂ (AnnotationUse.Kept configuration file position member) member.annotations
      kept ∧
    Inserted (fun use => ∃ value,
      companion configuration (Kind.ofType member.declaredType) value = some use) kept after

/-- Fields as a class may get them: private, without annotations, named in order and not like any
field or method of the class. -/
structure Java.ClassDeclaration.NewFields (declaration : ClassDeclaration)
    (fields : List FieldDeclaration) : Prop where
  isPrivate : ∀ field ∈ fields, field.modifiers = ["private"]
  bare : ∀ field ∈ fields, field.annotations = []
  undeclared : ∀ field ∈ fields, field.name ∉ declaration.declaredNames
  ordered : fields.Pairwise fun first second => first.name < second.name

namespace Java

mutual

/-- A member of the class at a position, and what stands in its place. A field or method keeps all
but its annotations, a nested class all but its body. -/
inductive Member.Kept (configuration : Configuration) (file : String) :
    ClassPosition → Member → Member → Prop where
  | field (position : ClassPosition) (declaration : FieldDeclaration)
      (annotations : List AnnotationUse)
      (kept : (Member.field declaration).AnnotationsKept configuration file position annotations) :
      Member.Kept configuration file position (.field declaration)
        (.field { declaration with annotations })
  | method (position : ClassPosition) (declaration : MethodDeclaration)
      (annotations : List AnnotationUse)
      (kept : (Member.method declaration).AnnotationsKept configuration file position annotations) :
      Member.Kept configuration file position (.method declaration)
        (.method { declaration with annotations })
  | nested (position : ClassPosition) (header : ClassHeader) (body after : List Member)
      (inside : ClassPosition.BodyKept configuration file ⟨⟨header, body⟩, position.chain⟩
        after) :
      Member.Kept configuration file position (.nested header body) (.nested header after)

/-- The class at a position with another body: the members are kept in their order, and new fields
stand in the place for them. -/
inductive ClassPosition.BodyKept (configuration : Configuration) (file : String) :
    ClassPosition → List Member → Prop where
  | extended (position : ClassPosition) (front back newFront newBack : List Member)
      (fields : List FieldDeclaration) (body : position.declaration.body = front ++ back)
      (place : FieldPlace front back) (new : position.declaration.NewFields fields)
      (before : Member.AllKept configuration file position front newFront)
      (behind : Member.AllKept configuration file position back newBack) :
      ClassPosition.BodyKept configuration file position
        (newFront ++ (fields.map .field ++ newBack))

/-- Members of the class at a position, each with what stands in its place. -/
inductive Member.AllKept (configuration : Configuration) (file : String) :
    ClassPosition → List Member → List Member → Prop where
  | nil (position : ClassPosition) : Member.AllKept configuration file position [] []
  | cons (position : ClassPosition) (member after : Member) (rest others : List Member)
      (first : Member.Kept configuration file position member after)
      (remaining : Member.AllKept configuration file position rest others) :
      Member.AllKept configuration file position (member :: rest) (after :: others)

end

end Java

/-- A file, and the file that a run may leave in its place. -/
structure Java.CompilationUnit.Kept (configuration : Configuration)
    (unit output : CompilationUnit) : Prop where
  sourcePath : output.sourcePath = unit.sourcePath
  package : output.package = unit.package
  imports : Inserted (fun new => new = ⟨configuration.valueHolder, false⟩) unit.imports
    output.imports
  classes : List.Forall₂ (fun declaration result =>
      result.header = declaration.header ∧
        ClassPosition.BodyKept configuration unit.sourcePath ⟨declaration, []⟩ result.body)
    unit.classes output.classes

/-- The place of a new import among others. No ordinary import in front of it sorts after it, and
either one that does is next, or only static imports are left and an ordinary one stands right in
front, if anything does. -/
structure Java.Import.Placed (new : Import) (front back : List Import) : Prop where
  before : ∀ entry ∈ front, entry.sortsAfter new.name = false
  behind : (∃ next ∈ back.head?, next.sortsAfter new.name = true) ∨
    (∀ entry ∈ back, entry.isStatic = true) ∧ ∀ last ∈ front.getLast?, last.isStatic = false

/-- Behind the last ordinary import there are static ones only. -/
theorem insertBehindOrdinary_split (new : Import) (imports : List Import) :
    ∃ front back, imports = front ++ back ∧
      insertBehindOrdinary new imports = front ++ new :: back ∧
      (∀ entry ∈ back, entry.isStatic = true) ∧ ∀ last ∈ front.getLast?, last.isStatic = false := by
  induction imports with
  | nil => exact ⟨[], [], rfl, rfl, by simp, by simp⟩
  | cons entry rest inductionHypothesis =>
    rw [insertBehindOrdinary]
    split
    · rename_i ordinary
      obtain ⟨front, back, rfl, inserted, static, last⟩ := inductionHypothesis
      refine ⟨entry :: front, back, rfl, by rw [inserted, List.cons_append], static, ?_⟩
      cases front with
      | nil =>
        rintro _ ⟨rfl⟩
        obtain ⟨one, inside, isOrdinary⟩ := List.any_eq_true.mp ordinary
        rcases List.mem_cons.mp inside with rfl | behind
        · simpa using isOrdinary
        · rw [static one behind] at isOrdinary
          cases isOrdinary
      | cons first others => exact last
    · rename_i static
      exact ⟨[], entry :: rest, rfl, rfl, by simpa using static, by simp⟩

/-- A new import is put at its place among the others. -/
theorem insertImport_placed (new : Import) (imports : List Import) :
    ∃ front back, imports = front ++ back ∧ insertImport new imports = front ++ new :: back ∧
      new.Placed front back := by
  rw [insertImport]
  split
  · rename_i after
    refine ⟨_, _, List.takeWhile_append_dropWhile.symm, rfl, fun entry inside => ?_, .inl ?_⟩
    · simpa using List.mem_takeWhile_imp inside
    · cases rest : imports.dropWhile fun entry => !entry.sortsAfter new.name with
      | nil =>
        obtain ⟨entry, inside, sorts⟩ := List.any_eq_true.mp after
        simpa [sorts] using List.dropWhile_eq_nil_iff.mp rest entry inside
      | cons next others =>
        have ended := List.head?_dropWhile_not (fun entry => !entry.sortsAfter new.name) imports
        rw [rest] at ended
        exact ⟨next, rfl, by simpa using ended⟩
  · rename_i noneAfter
    obtain ⟨front, back, rfl, inserted, placed⟩ := insertBehindOrdinary_split new imports
    refine ⟨front, back, rfl, inserted, fun entry inside => ?_, .inr placed⟩
    exact Bool.eq_false_iff.mpr fun sorts =>
      noneAfter (List.any_eq_true.mpr ⟨entry, List.mem_append_left back inside, sorts⟩)

/-- The imports of a file are extended if companions are counted and imports are to be added. -/
theorem Apply.newImports_getD (configuration : Configuration) (tally : Tally)
    (imports : List Import) :
    (newImports configuration tally imports).getD imports =
      if configuration.addImports = true ∧ tally.companions ≠ 0 then
        ensureImport configuration.valueHolder imports
      else imports := by
  rw [newImports]
  by_cases asked : configuration.addImports = true ∧ tally.companions ≠ 0
  · rw [if_pos asked, if_neg (by simp [asked])]
    dsimp only
    split
    · rename_i same
      exact same.symm
    · rfl
  · rw [if_neg asked, if_pos]
    · rfl
    · rw [not_and_or, not_not, or_comm] at asked
      simpa using asked

/-- A file gets at most the import of the value holder. -/
theorem Apply.newImports_inserted (configuration : Configuration) (tally : Tally)
    (imports : List Import) :
    Inserted (fun new => new = ⟨configuration.valueHolder, false⟩) imports
      ((newImports configuration tally imports).getD imports) := by
  rw [newImports_getD, ensureImport]
  split
  · split
    · exact .nothing imports
    · obtain ⟨front, back, rfl, inserted, _⟩ :=
        insertImport_placed ⟨configuration.valueHolder, false⟩ imports
      rw [inserted]
      exact .one front back _ rfl
  · exact .nothing imports

/-- A first assignment stands behind arguments that do not assign the attribute. -/
theorem assignedFrom?_split (name : String) (index place : Nat) (arguments : List Expression)
    (value : Expression) (assigned : assignedFrom? name index arguments = some (place, value)) :
    ∃ front target back, arguments = front ++ .assignment target value :: back ∧
      place = index + front.length ∧ target.name = name ∧
      ∀ argument ∈ front, ¬argument.assigns name = true := by
  induction arguments generalizing index with
  | nil => cases assigned
  | cons first rest inductionHypothesis =>
    by_cases assigns : first.assigns name = true
    · cases first with
      | assignment target found =>
        have same : target.name = name := by simpa [Expression.assigns] using assigns
        rw [assignedFrom?, if_pos same] at assigned
        obtain ⟨rfl, rfl⟩ := Prod.mk.inj (Option.some.inj assigned)
        exact ⟨[], target, rest, rfl, rfl, same, by simp⟩
      | _ => cases assigns
    · have later : assignedFrom? name (index + 1) rest = some (place, value) := by
        cases first with
        | assignment target found =>
          rwa [assignedFrom?, if_neg (by simpa [Expression.assigns] using assigns)] at assigned
        | _ => simpa only [assignedFrom?] using assigned
      obtain ⟨front, target, back, rfl, rfl, same, before⟩ := inductionHypothesis (index + 1) later
      refine ⟨first :: front, target, back, rfl, ?_, same, ?_⟩
      · rw [List.length_cons]
        omega
      · rw [List.forall_mem_cons]
        exact ⟨assigns, before⟩

/-- Without its first assignment of the attribute, an annotation has its other arguments. -/
theorem Java.AnnotationUse.withoutArgument_assigned (name : String) (use : AnnotationUse)
    (place : Nat) (value : Expression) (assigned : use.assigned? name = some (place, value)) :
    ∃ front target back, use.arguments = some (front ++ .assignment target value :: back) ∧
      target.name = name ∧ (∀ argument ∈ front, ¬argument.assigns name = true) ∧
      use.withoutArgument place = { use with arguments := some (front ++ back) } := by
  rcases use with ⟨type, written, arguments⟩
  cases arguments with
  | none => cases assigned
  | some arguments =>
    obtain ⟨front, target, back, rfl, rfl, assigns, first⟩ :=
      assignedFrom?_split name 0 place arguments value assigned
    have gone : (front ++ Expression.assignment target value :: back).eraseIdx
        (0 + front.length) = front ++ back := by
      rw [Nat.zero_add, List.eraseIdx_append_of_length_le (Nat.le_refl _), Nat.sub_self,
        List.eraseIdx_cons_zero]
    refine ⟨front, target, back, rfl, assigns, first, ?_⟩
    rw [withoutArgument, Option.getD_some, gone]

namespace Relocation

variable {configuration : Configuration} {store : Store} {file : String}
  {position : ClassPosition} {member : Member}

/-- A stripped annotation keeps all but the assignment of a value that is not skipped. -/
theorem strippedUse_kept
    (settled : ∀ found ∈ Occurrence.ofMember configuration file position member,
      found.Analysable configuration ∧ ∀ key anchor, found.Keyed configuration key anchor →
        ∃ entry, store.get? key = some entry)
    (use : AnnotationUse) (inside : use ∈ member.annotations) :
    use.Kept configuration file position member
      (strippedUse configuration store file position member use) := by
  rw [strippedUse]
  cases here : Occurrence.ofAnnotationUse? configuration file position member 0 use with
  | none =>
    refine .whole use fun index found carried => ?_
    rw [ofAnnotationUse?_place, here] at carried
    cases carried
  | some found =>
    obtain ⟨place, within⟩ :=
      exists_mem_ofAnnotations file position member 0 member.annotations use inside found here
    obtain ⟨analysable, stored⟩ := settled _ within
    obtain ⟨_, attributeIndex, value, assigned, same⟩ := Occurrence.ofAnnotationUse?_exact here
    have written : found.holderUse = use := by rw [same]
    rw [Option.map_some, Option.getD_some, Occurrence.stripped, written]
    split
    · rename_i moves
      have taken : ¬found.Skipped configuration := by
        intro skipped
        rw [found.due_of_skipped store skipped] at moves
        cases moves
      obtain ⟨front, target, back, arguments, assigns, first, gone⟩ :=
        use.withoutArgument_assigned configuration.attributeName attributeIndex value assigned
      have place : found.attributeIndex = attributeIndex := by rw [same]
      rw [place, gone]
      exact .stripped use front back target value 0 found here taken arguments assigns first
    · rename_i still
      refine .whole use fun index other carried => ?_
      rw [ofAnnotationUse?_place, here] at carried
      obtain rfl := Option.some.inj carried
      have skipped := Occurrence.skipped_of_still _ analysable stored (Bool.eq_false_iff.mpr still)
      exact Occurrence.skipped_congr _ _ rfl rfl rfl skipped

/-- An annotation is inserted somewhere among the others. -/
theorem insertUse_split (new : AnnotationUse) (uses : List AnnotationUse) :
    ∃ front back, uses = front ++ back ∧ insertUse new uses = front ++ new :: back := by
  induction uses with
  | nil => exact ⟨[], [], rfl, rfl⟩
  | cons use rest inductionHypothesis =>
    rw [insertUse]
    split
    · exact ⟨[], use :: rest, rfl, rfl⟩
    · obtain ⟨front, back, whole, inserted⟩ := inductionHypothesis
      exact ⟨use :: front, back, by rw [whole, List.cons_append], by
        rw [inserted, List.cons_append]⟩

/-- Nothing of a type that is there is attached. -/
theorem foldl_attachUse_present (new uses : List AnnotationUse) (present : AnnotationUse)
    (inside : present ∈ uses)
    (same : ∀ use ∈ new, present.type.qualifiedName = use.type.qualifiedName) :
    new.foldl attachUse uses = uses := by
  induction new with
  | nil => rfl
  | cons first rest inductionHypothesis =>
    rw [List.forall_mem_cons] at same
    have there : uses.any (fun use => use.type.qualifiedName = first.type.qualifiedName) = true :=
      List.any_eq_true.mpr ⟨present, inside, decide_eq_true same.1⟩
    rw [List.foldl_cons, attachUse, if_pos there, inductionHypothesis same.2]

/-- Of annotations of one type, at most one is attached. -/
theorem foldl_attachUse_inserted (fits : AnnotationUse → Prop) (new uses : List AnnotationUse)
    (fit : ∀ use ∈ new, fits use)
    (alike : ∀ first ∈ new, ∀ second ∈ new,
      first.type.qualifiedName = second.type.qualifiedName) :
    Inserted fits uses (new.foldl attachUse uses) := by
  cases new with
  | nil => exact .nothing uses
  | cons first rest =>
    have same : ∀ use ∈ rest, first.type.qualifiedName = use.type.qualifiedName :=
      fun use later => alike first List.mem_cons_self use (List.mem_cons_of_mem _ later)
    rw [List.foldl_cons, attachUse]
    split
    · rename_i there
      obtain ⟨present, inside, sameType⟩ := List.any_eq_true.mp there
      rw [foldl_attachUse_present rest uses present inside fun use later =>
        (of_decide_eq_true sameType).trans (same use later)]
      exact .nothing uses
    · obtain ⟨front, back, rfl, inserted⟩ := insertUse_split first uses
      rw [inserted, foldl_attachUse_present rest _ first (by simp) same]
      exact .one front back first (fit first List.mem_cons_self)

/-- The companions of a member are made for its kind. -/
theorem made_of_companionsOf (configuration : Configuration) (store : Store) (file : String)
    (position : ClassPosition) (member : Member) (use : AnnotationUse)
    (inside : use ∈ companionsOf configuration store file position member) :
    ∃ value, companion configuration (Kind.ofType member.declaredType) value = some use := by
  obtain ⟨found, within, made⟩ := List.mem_filterMap.mp inside
  obtain ⟨_, _, rfl, _⟩ := Occurrence.mem_ofAnnotations _ _ _ _ _ _ _ within
  obtain ⟨value, _, made⟩ := Option.bind_eq_some_iff.mp made
  exact ⟨value, made⟩

/-- The companions of a member are of one type. -/
theorem companionsOf_alike (configuration : Configuration) (store : Store) (file : String)
    (position : ClassPosition) (member : Member) (first second : AnnotationUse)
    (inside : first ∈ companionsOf configuration store file position member)
    (among : second ∈ companionsOf configuration store file position member) :
    first.type.qualifiedName = second.type.qualifiedName := by
  obtain ⟨_, made⟩ := made_of_companionsOf configuration store file position member first inside
  obtain ⟨_, other⟩ := made_of_companionsOf configuration store file position member second among
  obtain ⟨holder, named, rfl⟩ := Option.map_eq_some_iff.mp made
  obtain ⟨_, again, rfl⟩ := Option.map_eq_some_iff.mp other
  obtain rfl := Option.some.inj (named.symm.trans again)
  rfl

/-- Of the companions of a member, at most one is attached. -/
theorem relocatedUses_inserted (configuration : Configuration) (store : Store) (file : String)
    (position : ClassPosition) (member : Member) :
    Inserted (fun use => ∃ value,
        companion configuration (Kind.ofType member.declaredType) value = some use)
      (strippedUses configuration store file position member)
      (relocatedUses configuration store file position member) :=
  foldl_attachUse_inserted _ _ _
    (made_of_companionsOf configuration store file position member)
    fun first inside second among =>
      companionsOf_alike configuration store file position member first second inside among

/-- A relocated member keeps its annotations. -/
theorem relocatedUses_kept
    (settled : ∀ found ∈ Occurrence.ofMember configuration file position member,
      found.Analysable configuration ∧ ∀ key anchor, found.Keyed configuration key anchor →
        ∃ entry, store.get? key = some entry) :
    member.AnnotationsKept configuration file position
      (relocatedUses configuration store file position member) := by
  refine ⟨strippedUses configuration store file position member, ?_,
    relocatedUses_inserted configuration store file position member⟩
  rw [strippedUses, List.forall₂_map_right_iff, List.forall₂_same]
  exact strippedUse_kept settled

end Relocation

namespace Apply

variable {configuration : Configuration} {units : List CompilationUnit} {unit : CompilationUnit}

/-- The fields that a class gets are new to it. -/
theorem fieldsAt_new (configuration : Configuration) (units : List CompilationUnit)
    (unit : CompilationUnit) (position : ClassPosition) :
    position.declaration.NewFields
      (fieldsAt (scanned configuration units).store unit position) where
  isPrivate := by
    intro field inside
    obtain ⟨entry, due, made⟩ := (mem_made_iff ..).mp inside
    obtain ⟨⟨key, stored, _⟩, _⟩ := (mem_due_iff ..).mp due
    obtain ⟨_, _, _, madeFor⟩ := (scanned_records configuration units).made (key, entry) stored
    obtain ⟨_, _, _, _, _, filled⟩ := madeFor.field_exact unit.imports
    obtain rfl := Except.ok.inj (filled.symm.trans made)
    rfl
  bare := fieldsAt_bare position
  undeclared := by
    intro field inside
    have named : field.name ∈ (due (scanned configuration units).store unit.sourcePath
        position.declaration).map Entry.fieldName := by
      rw [← fieldsAt_names]
      exact List.mem_map_of_mem inside
    obtain ⟨entry, due, same⟩ := List.mem_map.mp named
    rw [← same]
    exact ((mem_due_iff ..).mp due).2.2
  ordered := by
    have distinct := due_names_nodup configuration units unit.sourcePath position.declaration
    have sorted : (due (scanned configuration units).store unit.sourcePath
        position.declaration).Pairwise fun first second => first.fieldName ≤ second.fieldName :=
      (sortByName_ordered _).sublist List.filter_sublist
    rw [← List.pairwise_map (f := FieldDeclaration.name) (R := (· < ·)), fieldsAt_names,
      List.pairwise_map]
    rw [List.Nodup, List.pairwise_map] at distinct
    refine (sorted.and distinct).imp fun {first second} both => ?_
    by_contra notBelow
    exact both.2 (String.le_antisymm both.1 (String.not_lt.mp notBelow))

/-- A class of which the members are kept is kept in its body. -/
theorem body_kept (position : ClassPosition)
    (members : ∀ member ∈ position.declaration.body,
      Member.Kept configuration unit.sourcePath position member
        (changedMember configuration (scanned configuration units).store unit position member)) :
    ClassPosition.BodyKept configuration unit.sourcePath position
      (position.changed
        (classChange configuration (scanned configuration units).store unit)).body := by
  have all : ∀ part : List Member, (∀ member ∈ part, member ∈ position.declaration.body) →
      Member.AllKept configuration unit.sourcePath position part (part.map
        (changedMember configuration (scanned configuration units).store unit position)) := by
    intro part inside
    induction part with
    | nil => exact .nil position
    | cons member rest inductionHypothesis =>
      rw [List.forall_mem_cons] at inside
      exact .cons position member _ rest _ (members member inside.1)
        (inductionHypothesis inside.2)
  obtain ⟨front, back, body, place, changed⟩ :=
    body_changed_place (scanned configuration units).store unit position
  rw [changed]
  exact .extended position front back _ _ _ body place
    (fieldsAt_new configuration units unit position)
    (all front fun member inside => body ▸ List.mem_append_left back inside)
    (all back fun member inside => body ▸ List.mem_append_right front inside)

section

variable (settled : ∀ found ∈ Occurrence.ofUnit configuration unit,
  found.Analysable configuration ∧ ∀ key anchor, found.Keyed configuration key anchor →
    ∃ entry, (scanned configuration units).store.get? key = some entry)

include settled in
/-- Every member of a file is kept, if all occurrences of the file are analysed and all keys
stored.

The induction follows the nesting: a nested class keeps its header, and its body if its members are
kept. -/
theorem changedMember_kept (member : Member) (position : ClassPosition)
    (placed : position ∈ unit.positions) (declared : member ∈ position.declaration.body) :
    Member.Kept configuration unit.sourcePath position member
      (changedMember configuration (scanned configuration units).store unit position member) := by
  have ofMember : ∀ found ∈ Occurrence.ofMember configuration unit.sourcePath position member,
      found ∈ Occurrence.ofUnit configuration unit := fun found inside =>
    (Occurrence.mem_ofUnit_iff ..).mpr ⟨position, placed, member, declared, inside⟩
  have uses := Relocation.relocatedUses_kept fun found inside =>
    settled found (ofMember found inside)
  induction member using Member.inductionOnMembers generalizing position with
  | field declaration =>
    rw [changedMember, Member.changed]
    exact .field position declaration _ uses
  | method declaration =>
    rw [changedMember, Member.changed]
    exact .method position declaration _ uses
  | nested header body inductionHypothesis =>
    have inner : ⟨⟨header, body⟩, position.chain⟩ ∈ unit.positions := by
      rw [CompilationUnit.mem_positions_iff] at placed ⊢
      exact .inside ⟨header, body⟩ position.declaration position.enclosing placed declared
    have headerKept := ClassPosition.header_changed (classChange_keepsNesting configuration
      (scanned configuration units).store unit) ⟨⟨header, body⟩, position.chain⟩
    rw [changedMember, Member.changed_nested, headerKept]
    refine .nested position header body _ (body_kept _ fun member inside => ?_)
    have within : ∀ found ∈ Occurrence.ofMember configuration unit.sourcePath
        ⟨⟨header, body⟩, position.chain⟩ member, found ∈ Occurrence.ofUnit configuration unit :=
      fun found carried =>
        (Occurrence.mem_ofUnit_iff ..).mpr ⟨_, inner, member, inside, carried⟩
    exact inductionHypothesis member inside _ inner inside within
      (Relocation.relocatedUses_kept fun found carried => settled found (within found carried))

include settled in
/-- A file is kept in its migrated form, if all its occurrences are analysed and all keys stored. -/
theorem migrated_kept :
    unit.Kept configuration (migrated configuration (scanned configuration units).store unit) where
  sourcePath := rfl
  package := rfl
  imports := newImports_inserted configuration _ unit.imports
  classes := by
    rw [migrated, CompilationUnit.changed, List.forall₂_map_right_iff, List.forall₂_same]
    intro declaration listed
    have placed : ⟨declaration, []⟩ ∈ unit.positions :=
      (unit.mem_positions_iff _).mpr (.outermost declaration listed)
    exact ⟨rfl, body_kept _ fun member inside => changedMember_kept settled member _ placed inside⟩

end

end Apply

/-- A run that returns keeps every file but for what a migration is to change: one import, new
fields in one stretch of each class, the assignments of values that are not skipped, and one
companion for each member.

A file that the run touches is migrated with a store that has an entry for every key of its
occurrences. A file that it does not touch has no occurrences; as its migrated form for an empty
store it is kept for the same reason. -/
theorem run_keeps_files (configuration : Configuration) (units : List CompilationUnit)
    (report : RunReport) (returned : (run configuration units ()).outcome = .ok report) :
    List.Forall₂ (CompilationUnit.Kept configuration) units report.units := by
  rw [run_units returned, List.forall₂_map_right_iff, List.forall₂_same]
  intro unit listed
  split
  · obtain ⟨analysable, _, _⟩ := (run_returns_iff configuration units report).mp returned
    refine Apply.migrated_kept fun found inside => ?_
    have inBatch : found ∈ Occurrence.ofBatch configuration units :=
      List.mem_flatMap.mpr ⟨unit, listed, inside⟩
    exact ⟨analysable found inBatch,
      (scanned_records configuration units).complete found inBatch⟩
  · rename_i untouched
    have nothing := Occurrence.ofUnit_of_untouched configuration unit untouched
    have same : Apply.migrated configuration (scanned configuration []).store unit = unit :=
      (Apply.settled_of_skipped unit (by simp [nothing])).migrated_self
    have kept : unit.Kept configuration
        (Apply.migrated configuration (scanned configuration []).store unit) :=
      Apply.migrated_kept (by simp [nothing])
    rwa [same] at kept

/-- The file with a list of constants, a number and a member of an unsupported type is changed by a
run, and kept. -/
theorem run_keeps_assorted :
    ∃ report, (run {} [assortedClass] ()).outcome = .ok report ∧
      report.units ≠ [assortedClass] ∧
      List.Forall₂ (CompilationUnit.Kept {}) [assortedClass] report.units := by
  refine ⟨_, rfl, by decide, run_keeps_files {} [assortedClass] _ rfl⟩

end TypedDefaults
