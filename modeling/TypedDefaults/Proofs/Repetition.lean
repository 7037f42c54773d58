import Mathlib.Algebra.GroupWithZero.Nat
import TypedDefaults.Proofs.Migration

/-!
# Runs on migrated files

A run leaves in place exactly the occurrences that it skips, and it skips them
for reasons of their own: an analysis looks at the file's path, the member's
type and the value, none of which a run changes where it moves nothing. What a
run adds brings no occurrence. So a second run finds only occurrences to skip,
records nothing, and leaves every file.
-/

namespace TypedDefaults

open Java

namespace Occurrence

variable {configuration : Configuration} {store : Store}

/-- The analysis finds that the occurrence is to be skipped. -/
def Skipped (configuration : Configuration) (found : Occurrence) : Prop :=
  ∃ kind anchor reason, found.analyse configuration = .ok ⟨kind, anchor, .skipped reason⟩

/-- The analysis of a skipped occurrence ends. -/
theorem Skipped.analysable {found : Occurrence} (skipped : found.Skipped configuration) :
    found.Analysable configuration := by
  obtain ⟨kind, anchor, reason, analysed⟩ := skipped
  exact ⟨_, analysed⟩

/-- The value of a skipped occurrence stays in its place, whatever is stored. -/
theorem due_of_skipped (store : Store) (found : Occurrence)
    (skipped : found.Skipped configuration) :
    found.due configuration store = .nothing := by
  obtain ⟨kind, anchor, reason, analysed⟩ := skipped
  rw [due, analysed]
  rfl

/-- A value that stays in its place was skipped, if there is an entry for the key that it may
have. -/
theorem skipped_of_still (found : Occurrence) (analysable : found.Analysable configuration)
    (stored : ∀ key anchor, found.Keyed configuration key anchor →
      ∃ entry, store.get? key = some entry)
    (still : (found.due configuration store).moves = false) : found.Skipped configuration := by
  obtain ⟨⟨kind, anchor, outcome⟩, analysed⟩ := analysable
  rw [due, analysed] at still
  cases outcome with
  | skipped reason => exact ⟨kind, anchor, reason, analysed⟩
  | keyed key keyedAnchor =>
    obtain ⟨entry, found⟩ := stored key keyedAnchor ⟨_, analysed, rfl⟩
    simp [Due.ofAnalysis, found, Due.moves] at still
  | _ => simp [Due.ofAnalysis, Due.moves] at still

/-- An analysis reads the file of an occurrence, its value and its member's type. -/
theorem analyse_congr (configuration : Configuration) (found other : Occurrence)
    (file : other.file = found.file)
    (type : other.member.declaredType = found.member.declaredType)
    (value : other.value = found.value) :
    other.analyse configuration = found.analyse configuration := by
  rw [analyse, analyse, file, type, value]

/-- Whether an occurrence is skipped depends on its file, its value and its member's type. -/
theorem skipped_congr (found other : Occurrence) (file : other.file = found.file)
    (type : other.member.declaredType = found.member.declaredType)
    (value : other.value = found.value) (skipped : found.Skipped configuration) :
    other.Skipped configuration := by
  obtain ⟨kind, anchor, reason, analysed⟩ := skipped
  exact ⟨kind, anchor, reason, (analyse_congr configuration found other file type value).trans
    analysed⟩

/-- Whether the value of an occurrence moves depends on its file, the value and its member's type.
-/
theorem moves_congr (found other : Occurrence) (file : other.file = found.file)
    (type : other.member.declaredType = found.member.declaredType)
    (value : other.value = found.value) :
    (other.due configuration store).moves = (found.due configuration store).moves := by
  rw [due, due, analyse_congr configuration found other file type value]
  cases found.analyse configuration with
  | error numeral => rfl
  | ok analysis =>
    dsimp only
    rw [Due.ofAnalysis, Due.ofAnalysis]
    cases analysis.outcome with
    | keyed key anchor =>
      dsimp only
      cases store.get? key <;> rfl
    | _ => rfl

end Occurrence

/-- The expression assigns an attribute. -/
def Java.Expression.assigns (name : String) : Expression → Bool
  | .assignment target _ => target.name = name
  | _ => false

/-- The annotation assigns an attribute at most once. -/
def Java.AnnotationUse.AssignsOnce (name : String) (use : AnnotationUse) : Prop :=
  ((use.arguments.getD []).filter (Expression.assigns name)).length ≤ 1

instance (name : String) (use : AnnotationUse) : Decidable (use.AssignsOnce name) :=
  inferInstanceAs (Decidable (_ ≤ _))

/-- No first assignment to an attribute is found exactly if no argument assigns it. -/
theorem assignedFrom?_eq_none_iff (name : String) (index : Nat) (arguments : List Expression) :
    assignedFrom? name index arguments = none ↔
      arguments.filter (Expression.assigns name) = [] := by
  induction arguments generalizing index with
  | nil => simp [assignedFrom?]
  | cons first rest inductionHypothesis =>
    cases first with
    | assignment target value =>
      rw [assignedFrom?, List.filter_cons]
      by_cases same : target.name = name
      · simp [same, Expression.assigns]
      · rw [if_neg same, inductionHypothesis, if_neg (by simpa [Expression.assigns] using same)]
    | _ =>
      rw [assignedFrom?, List.filter_cons_of_neg (by simp [Expression.assigns]),
        inductionHypothesis]
      all_goals simp

/-- Without its first assignment, a list that has only one has none. -/
theorem filter_eraseIdx_assigned (name : String) (index place : Nat) (arguments : List Expression)
    (value : Expression) (once : (arguments.filter (Expression.assigns name)).length ≤ 1)
    (assigned : assignedFrom? name index arguments = some (place, value)) :
    index ≤ place ∧
      (arguments.eraseIdx (place - index)).filter (Expression.assigns name) = [] := by
  induction arguments generalizing index with
  | nil => cases assigned
  | cons first rest inductionHypothesis =>
    by_cases assigns : first.assigns name = true
    · cases first with
      | assignment target found =>
        have same : target.name = name := by simpa [Expression.assigns] using assigns
        rw [assignedFrom?, if_pos same] at assigned
        obtain ⟨rfl, rfl⟩ := Prod.mk.inj (Option.some.inj assigned)
        rw [List.filter_cons_of_pos assigns, List.length_cons] at once
        refine ⟨Nat.le_refl _, ?_⟩
        rw [Nat.sub_self, List.eraseIdx_cons_zero]
        exact List.length_eq_zero_iff.mp (by omega)
      | _ => cases assigns
    · have later : assignedFrom? name (index + 1) rest = some (place, value) := by
        cases first with
        | assignment target found =>
          rwa [assignedFrom?, if_neg (by simpa [Expression.assigns] using assigns)] at assigned
        | _ => simpa only [assignedFrom?] using assigned
      rw [List.filter_cons_of_neg assigns] at once
      obtain ⟨behind, erased⟩ := inductionHypothesis (index + 1) once later
      obtain ⟨step, rfl⟩ : ∃ step, place = index + 1 + step := ⟨place - (index + 1), by omega⟩
      rw [show index + 1 + step - (index + 1) = step by omega] at erased
      rw [show index + 1 + step - index = step + 1 by omega, List.eraseIdx_cons_succ,
        List.filter_cons_of_neg assigns]
      exact ⟨by omega, erased⟩

/-- An annotation that assigned the attribute once, and then no more, has no assignment of it. -/
theorem assigned?_withoutArgument (name : String) (use : AnnotationUse) (place : Nat)
    (value : Expression) (once : use.AssignsOnce name)
    (assigned : use.assigned? name = some (place, value)) :
    (use.withoutArgument place).assigned? name = none := by
  obtain ⟨_, erased⟩ := filter_eraseIdx_assigned name 0 place (use.arguments.getD []) value once
    assigned
  rw [AnnotationUse.assigned?, assignedFrom?_eq_none_iff]
  exact erased

namespace Relocation

variable {configuration : Configuration} {store : Store}

/-- The annotation is that of an occurrence. -/
def carries (configuration : Configuration) (use : AnnotationUse) : Bool :=
  use.type.qualifiedName = configuration.attributeHolder &&
    (use.assigned? configuration.attributeName).isSome

/-- The annotations with occurrences are those that carry one. -/
theorem isSome_ofAnnotationUse? (configuration : Configuration) (file : String)
    (position : ClassPosition) (member : Member) (index : Nat) (use : AnnotationUse) :
    (Occurrence.ofAnnotationUse? configuration file position member index use).isSome =
      carries configuration use := by
  rw [Occurrence.ofAnnotationUse?, carries]
  split <;> rename_i holder <;> simp [holder]

/-- A batch of annotations has as many occurrences as annotations that carry one. -/
theorem length_ofAnnotations (file : String) (position : ClassPosition) (member : Member)
    (index : Nat) (uses : List AnnotationUse) :
    (Occurrence.ofAnnotations configuration file position member index uses).length =
      uses.countP (carries configuration) := by
  induction uses generalizing index with
  | nil => rfl
  | cons use rest inductionHypothesis =>
    rw [Occurrence.ofAnnotations, List.length_append, inductionHypothesis, List.countP_cons,
      ← isSome_ofAnnotationUse? configuration file position member index use, Nat.add_comm]
    cases Occurrence.ofAnnotationUse? configuration file position member index use <;> rfl

/-- A companion carries no occurrence if its type is not that of the holder. -/
theorem carries_companion (apart : ∀ kind holder, Holder.name? kind = some holder →
      configuration.attributeHolder ≠ configuration.valueHolder ++ "." ++ holder)
    (found : Occurrence) (use : AnnotationUse)
    (companion : found.companion? configuration store = some use) :
    carries configuration use = false := by
  obtain ⟨value, _, made⟩ := Option.bind_eq_some_iff.mp companion
  obtain ⟨holder, named, rfl⟩ := Option.map_eq_some_iff.mp made
  rw [carries, Bool.and_eq_false_iff]
  left
  rw [decide_eq_false_iff_not]
  exact (apart found.kind holder named).symm

/-- A stripped annotation carries an occurrence exactly if there was one whose value did not
move. -/
theorem carries_strippedUse (file : String) (position : ClassPosition) (member : Member)
    (use : AnnotationUse) (once : use.AssignsOnce configuration.attributeName) :
    carries configuration (strippedUse configuration store file position member use) =
      (Occurrence.ofAnnotationUse? configuration file position member 0 use).any fun found =>
        !(found.due configuration store).moves := by
  have whole := isSome_ofAnnotationUse? configuration file position member 0 use
  rw [strippedUse]
  cases here : Occurrence.ofAnnotationUse? configuration file position member 0 use with
  | none =>
    rw [here] at whole
    exact whole.symm
  | some found =>
    obtain ⟨_, place, value, assigned, rfl⟩ := Occurrence.ofAnnotationUse?_exact here
    rw [here] at whole
    rw [Option.map_some, Option.getD_some, Option.any_some, Occurrence.stripped]
    split
    · rename_i moves
      have gone := assigned?_withoutArgument _ use place value once assigned
      rw [carries, gone, moves]
      simp
    · rename_i still
      rw [← whole]
      simp [still]

/-- Occurrences chosen without regard to their places are counted annotation by annotation. -/
theorem countP_ofAnnotations (chosen : Occurrence → Bool)
    (placeless : ∀ (found : Occurrence) index,
      chosen { found with annotationIndex := index } = chosen found)
    (file : String) (position : ClassPosition) (member : Member) (index : Nat)
    (uses : List AnnotationUse) :
    (Occurrence.ofAnnotations configuration file position member index uses).countP chosen =
      uses.countP fun use =>
        (Occurrence.ofAnnotationUse? configuration file position member 0 use).any chosen := by
  induction uses generalizing index with
  | nil => rfl
  | cons use rest inductionHypothesis =>
    rw [Occurrence.ofAnnotations, List.countP_append, inductionHypothesis, List.countP_cons,
      Nat.add_comm, ofAnnotationUse?_place]
    cases Occurrence.ofAnnotationUse? configuration file position member 0 use with
    | none => rfl
    | some found =>
      rw [Option.map_some, Option.toList_some, List.countP_singleton, placeless]
      rfl

/-- A relocated member has one occurrence for each value that did not move. -/
theorem length_ofMember_relocated
    (apart : ∀ kind holder, Holder.name? kind = some holder →
      configuration.attributeHolder ≠ configuration.valueHolder ++ "." ++ holder)
    (file : String) (position moved : ClassPosition) (member : Member)
    (once : ∀ use ∈ member.annotations, use.AssignsOnce configuration.attributeName) :
    (Occurrence.ofMember configuration file moved
        (relocated configuration store file position member)).length =
      (Occurrence.ofMember configuration file position member).countP
        fun found => !(found.due configuration store).moves := by
  obtain ⟨attached, among, same⟩ := attachUse_perm
    (companionsOf configuration store file position member)
    (strippedUses configuration store file position member)
  have none : attached.countP (carries configuration) = 0 := by
    rw [List.countP_eq_zero]
    intro use inside
    obtain ⟨found, _, companion⟩ := List.mem_filterMap.mp (among inside)
    rw [carries_companion apart found use companion]
    exact Bool.false_ne_true
  rw [Occurrence.ofMember, length_ofAnnotations, annotations_relocated, relocatedUses,
    same.countP_eq, List.countP_append, none, Nat.zero_add, strippedUses, List.countP_map,
    Occurrence.ofMember, countP_ofAnnotations _ fun _ _ => rfl]
  apply List.countP_congr
  intro use inside
  rw [Function.comp_apply, carries_strippedUse file position member use (once use inside)]

/-- An occurrence of a relocated member is one of the member's whose value did not move. -/
theorem survivor_of_mem_relocated
    (apart : ∀ kind holder, Holder.name? kind = some holder →
      configuration.attributeHolder ≠ configuration.valueHolder ++ "." ++ holder)
    (file : String) (position moved : ClassPosition) (member : Member)
    (once : ∀ use ∈ member.annotations, use.AssignsOnce configuration.attributeName)
    (other : Occurrence)
    (left : other ∈ Occurrence.ofMember configuration file moved
      (relocated configuration store file position member)) :
    ∃ found ∈ Occurrence.ofMember configuration file position member,
      (found.due configuration store).moves = false ∧ other.file = found.file ∧
        other.member.declaredType = found.member.declaredType ∧ other.value = found.value := by
  obtain ⟨sameFile, _, sameMember, written, holder, assigned⟩ :=
    Occurrence.mem_ofAnnotations _ _ _ _ _ _ _ left
  have carried : carries configuration other.holderUse = true := by
    simp [carries, holder, assigned]
  rw [annotations_relocated] at written
  rcases mem_relocatedUses file position member _ written with
    ⟨found, _, companion⟩ | ⟨use, inside, stripped⟩
  · rw [carries_companion apart found _ companion] at carried
    cases carried
  · rw [← stripped, carries_strippedUse file position member use (once use inside),
      Option.any_eq_true] at carried
    obtain ⟨found, here, still⟩ := carried
    replace still : (found.due configuration store).moves = false := by simpa using still
    obtain ⟨place, within⟩ :=
      exists_mem_ofAnnotations file position member 0 member.annotations use inside found here
    obtain ⟨_, attributeIndex, value, before, rfl⟩ := Occurrence.ofAnnotationUse?_exact here
    have kept : strippedUse configuration store file position member use = use := by
      apply strippedUse_of_still
      rintro found again
      obtain rfl := Option.some.inj (here.symm.trans again)
      exact still
    rw [← stripped, kept, before] at assigned
    obtain ⟨_, sameValue⟩ := Prod.mk.inj (Option.some.inj assigned)
    refine ⟨_, within, still, sameFile, ?_, sameValue.symm⟩
    rw [sameMember]
    cases member <;> rfl

end Relocation

/-- Ones for the chosen parts of a list add up to their number. -/
theorem sum_indicator {α : Type} (chosen : α → Bool) (parts : List α) :
    (parts.map fun part => if chosen part then 1 else 0).sum = parts.countP chosen := by
  induction parts with
  | nil => rfl
  | cons part rest inductionHypothesis =>
    rw [List.map_cons, List.sum_cons, inductionHypothesis, List.countP_cons, Nat.add_comm]

/-- Tallies that only skip add up to one. -/
theorem Tally.sum_skips {α : Type} (parts : List α) (skips : α → Nat) :
    (parts.map fun part => (⟨0, 0, 0, skips part⟩ : Tally)).sum =
      ⟨0, 0, 0, (parts.map skips).sum⟩ := by
  induction parts with
  | nil => rfl
  | cons part rest inductionHypothesis =>
    rw [List.map_cons, List.sum_cons, inductionHypothesis, List.map_cons, List.sum_cons]
    rfl

namespace Apply

variable {configuration : Configuration} {store : Store}

/-- The occurrences of a migrated file are those of its relocated members. -/
theorem ofUnit_migrated (configuration : Configuration) (store : Store) (unit : CompilationUnit) :
    Occurrence.ofUnit configuration (migrated configuration store unit) =
      unit.positions.flatMap fun position => position.declaration.body.flatMap fun member =>
        Occurrence.ofMember configuration unit.sourcePath
          (position.moved (classChange configuration store unit))
          (Relocation.relocated configuration store unit.sourcePath position member) := by
  rw [Occurrence.ofUnit, positions_migrated, List.flatMap_map]
  apply List.flatMap_congr
  intro position _
  refine flatMap_classChange position (position.given (classChange configuration store unit))
    (position.given_alike _) _ ?_
  intro member bare
  rw [Occurrence.ofMember, bare, Occurrence.ofAnnotations]

/-- A share of the tally of a file is added up over its classes, for their fields and over their
members. -/
theorem share_classTallies (share : Tally →+ Nat) (configuration : Configuration) (store : Store)
    (unit : CompilationUnit) :
    share (unitTally configuration store unit) =
      (unit.positions.map fun position =>
        share ⟨(fieldsAt store unit position).length, 0, 0, 0⟩ +
          (position.declaration.body.map fun member => share (Relocation.memberTally configuration
            store unit.sourcePath position member)).sum).sum := by
  rw [unitTally, map_list_sum, List.map_map]
  refine congrArg List.sum (List.map_congr_left fun position _ => ?_)
  rw [Function.comp_apply, classTally, map_add, map_list_sum, List.map_map]
  rfl

/-- A share of the tally to which only occurrences add is added up over the occurrences of a
file. -/
theorem share_unitTally (share : Tally →+ Nat)
    (others : ∀ fields companions, share ⟨fields, 0, companions, 0⟩ = 0)
    (configuration : Configuration) (store : Store) (unit : CompilationUnit) :
    share (unitTally configuration store unit) =
      ((Occurrence.ofUnit configuration unit).map fun found =>
        share (found.due configuration store).tally).sum := by
  rw [share_classTallies, Occurrence.ofUnit, sum_map_flatMap]
  refine congrArg List.sum (List.map_congr_left fun position _ => ?_)
  rw [others, zero_add, Occurrence.ofClass, sum_map_flatMap]
  refine congrArg List.sum (List.map_congr_left fun member _ => ?_)
  rw [Relocation.memberTally, map_add, others, map_list_sum, List.map_map]
  rfl

/-- What a file skips is the number of its values that do not move. -/
theorem skipped_unitTally (configuration : Configuration) (store : Store)
    (unit : CompilationUnit) :
    (unitTally configuration store unit).skipped =
      (Occurrence.ofUnit configuration unit).countP
        fun found => !(found.due configuration store).moves := by
  rw [← sum_indicator]
  refine (share_unitTally ⟨⟨Tally.skipped, rfl⟩, fun _ _ => rfl⟩ (fun _ _ => rfl) configuration
    store unit).trans (congrArg List.sum (List.map_congr_left fun found _ => ?_))
  rw [Due.tally]
  cases (found.due configuration store).moves <;> rfl

/-- What a file relocates is the number of its values that move. -/
theorem relocated_unitTally (configuration : Configuration) (store : Store)
    (unit : CompilationUnit) :
    (unitTally configuration store unit).relocated =
      (Occurrence.ofUnit configuration unit).countP
        fun found => (found.due configuration store).moves := by
  rw [← sum_indicator]
  refine (share_unitTally ⟨⟨Tally.relocated, rfl⟩, fun _ _ => rfl⟩ (fun _ _ => rfl) configuration
    store unit).trans (congrArg List.sum (List.map_congr_left fun found _ => ?_))
  rw [Due.tally]
  cases (found.due configuration store).moves <;> rfl

/-- A member of which no value moves only counts its occurrences. -/
theorem memberTally_still (file : String) (position : ClassPosition) (member : Member)
    (still : ∀ found ∈ Occurrence.ofMember configuration file position member,
      (found.due configuration store).moves = false) :
    Relocation.memberTally configuration store file position member =
      ⟨0, 0, 0, (Occurrence.ofMember configuration file position member).length⟩ := by
  have ones : ((Occurrence.ofMember configuration file position member).map fun found =>
      (found.due configuration store).tally) =
        (Occurrence.ofMember configuration file position member).map fun _ =>
          (⟨0, 0, 0, 1⟩ : Tally) := by
    apply List.map_congr_left
    intro found inside
    rw [Due.tally, still found inside]
    rfl
  rw [Relocation.memberTally, ones, Tally.sum_skips,
    Relocation.relocatedUses_of_still file position member still, Nat.sub_self, List.map_const',
    List.sum_replicate_nat, Nat.mul_one]
  rfl

/-- There is nothing to do in a file: no class lacks a field, all analyses end, and no value
moves. -/
structure Settled (configuration : Configuration) (store : Store) (unit : CompilationUnit) :
    Prop where
  complete : ∀ position ∈ unit.positions,
    Synthesis.due store unit.sourcePath position.declaration = []
  analysable : ∀ found ∈ Occurrence.ofUnit configuration unit, found.Analysable configuration
  still : ∀ found ∈ Occurrence.ofUnit configuration unit,
    (found.due configuration store).moves = false

/-- Where all occurrences are skipped and nothing is stored, there is nothing to do. -/
theorem settled_of_skipped (unit : CompilationUnit)
    (skipped : ∀ found ∈ Occurrence.ofUnit configuration unit, found.Skipped configuration) :
    Settled configuration .empty unit where
  complete := fun _ _ => rfl
  analysable := fun found inside => (skipped found inside).analysable
  still := fun found inside => by
    rw [found.due_of_skipped .empty (skipped found inside)]
    rfl

namespace Settled

variable {unit : CompilationUnit} (settled : Settled configuration store unit)

include settled

/-- The values in a class of a settled file stay. -/
theorem still_at {position : ClassPosition} (placed : position ∈ unit.positions)
    {member : Member} (declared : member ∈ position.declaration.body) :
    ∀ found ∈ Occurrence.ofMember configuration unit.sourcePath position member,
      found.Analysable configuration ∧ (found.due configuration store).moves = false := by
  intro found inside
  have listed := (Occurrence.mem_ofUnit_iff configuration unit found).mpr
    ⟨position, placed, member, declared, inside⟩
  exact ⟨settled.analysable found listed, settled.still found listed⟩

/-- A class of a settled file gets no fields. -/
theorem fieldsAt_nil {position : ClassPosition} (placed : position ∈ unit.positions) :
    fieldsAt store unit position = [] := by
  rw [fieldsAt, Synthesis.made, settled.complete position placed, List.filterMap_nil]

/-- The work on a settled file only counts its occurrences. -/
theorem unitTally_exact :
    unitTally configuration store unit =
      ⟨0, 0, 0, (Occurrence.ofUnit configuration unit).length⟩ := by
  have classes : ∀ position ∈ unit.positions, classTally configuration store unit position =
      ⟨0, 0, 0, (Occurrence.ofClass configuration unit.sourcePath position).length⟩ := by
    intro position placed
    have members : position.declaration.body.map
        (Relocation.memberTally configuration store unit.sourcePath position) =
          position.declaration.body.map fun member => (⟨0, 0, 0,
            (Occurrence.ofMember configuration unit.sourcePath position member).length⟩ :
              Tally) :=
      List.map_congr_left fun member declared => memberTally_still _ _ _ fun found inside =>
        (settled.still_at placed declared found inside).2
    rw [classTally, members, Tally.sum_skips, Occurrence.ofClass, List.length_flatMap,
      settled.fieldsAt_nil placed]
    exact zero_add _
  rw [unitTally, List.map_congr_left classes, Tally.sum_skips, Occurrence.ofUnit,
    List.length_flatMap]

/-- The work on a class of a settled file leaves it. -/
theorem visit_leaves {position : ClassPosition} (placed : position ∈ unit.positions) :
    (visit configuration store unit).Leaves (classTally configuration store unit) position := by
  intro before
  have left := Relocation.body_leaves configuration store unit.sourcePath position
    position.declaration.body (fun _ declared => settled.still_at placed declared) before
  have fields : (Synthesis.fields store unit.imports unit.sourcePath position.declaration :
      Work Action Tally FieldError _).Gives before before [] := by
    rw [Synthesis.fields, settled.complete position placed]
    exact (Work.gives_forEach_nil ..).mpr ⟨rfl, rfl⟩
  rw [visit, Work.gives_bind]
  refine ⟨before, [], (Work.gives_mapFailure ..).mpr fields, ?_⟩
  rw [Work.gives_bind]
  refine ⟨before, (), (Work.gives_modify ..).mpr rfl, ?_⟩
  rw [Work.gives_bind, Synthesis.insertFields_nil]
  refine ⟨_, none, (Work.gives_mapFailure ..).mpr left, ?_⟩
  refine (Work.gives_pure ..).mpr ⟨?_, rfl⟩
  rw [classTally, settled.fieldsAt_nil placed]
  exact congrArg (before + ·) (zero_add _)

/-- The work on a settled file leaves it. -/
theorem change_leaves :
    (change configuration store unit).Gives .zero
      ⟨0, 0, 0, (Occurrence.ofUnit configuration unit).length⟩ none := by
  have rebuilt := unit.rebuild_leaves (visit configuration store unit)
    (classTally configuration store unit) (fun _ placed => settled.visit_leaves placed) .zero
  have counted := settled.unitTally_exact
  rw [unitTally] at counted
  rw [counted] at rebuilt
  rw [change, Work.gives_bind]
  refine ⟨_, none, rebuilt, ?_⟩
  rw [Work.gives_bind]
  refine ⟨_, _, (Work.gives_state ..).mpr ⟨rfl, rfl⟩, ?_⟩
  exact (Work.gives_pure ..).mpr ⟨(zero_add _).symm, rfl⟩

/-- A settled file is its own migrated form. -/
theorem migrated_self : migrated configuration store unit = unit :=
  (change_makes _ none settled.change_leaves).1.symm

/-- A run leaves a settled file, whether or not it touches it. -/
theorem file_leaves :
    (file configuration store unit).Gives () ()
      ⟨unit.sourcePath, unit, false,
        ⟨0, 0, 0, (Occurrence.ofUnit configuration unit).length⟩, none⟩ := by
  rw [file]
  split
  · rw [Work.gives_inPhase]
    obtain ⟨state, outcome⟩ := settled.change_leaves
    refine ⟨rfl, ?_⟩
    rw [Apply.outcome]
    rcases ended : change configuration store unit .zero with ⟨tally, known, result⟩
    rw [ended] at state outcome
    obtain rfl : result = .ok none := outcome
    obtain rfl : tally = _ := state
    rfl
  · rename_i untouched
    rw [Occurrence.ofUnit_of_untouched configuration unit untouched]
    exact (Work.gives_pure ..).mpr ⟨rfl, rfl⟩

end Settled

section

variable {unit : CompilationUnit}
  (apart : ∀ kind holder, Holder.name? kind = some holder →
    configuration.attributeHolder ≠ configuration.valueHolder ++ "." ++ holder)
  (once : ∀ use ∈ unit.annotations, use.AssignsOnce configuration.attributeName)
  (analysable : ∀ found ∈ Occurrence.ofUnit configuration unit, found.Analysable configuration)
  (stored : ∀ found ∈ Occurrence.ofUnit configuration unit, ∀ key anchor,
    found.Keyed configuration key anchor → ∃ entry, store.get? key = some entry)

include apart once in
/-- The occurrences of a migrated file are those of the file whose values did not move. -/
theorem survivor_of_mem_migrated (other : Occurrence)
    (left : other ∈ Occurrence.ofUnit configuration (migrated configuration store unit)) :
    ∃ found ∈ Occurrence.ofUnit configuration unit,
      (found.due configuration store).moves = false ∧ other.file = found.file ∧
        other.member.declaredType = found.member.declaredType ∧ other.value = found.value := by
  rw [ofUnit_migrated, List.mem_flatMap] at left
  obtain ⟨position, placed, left⟩ := left
  obtain ⟨member, declared, left⟩ := List.mem_flatMap.mp left
  obtain ⟨found, inside, survives⟩ := Relocation.survivor_of_mem_relocated apart unit.sourcePath
    position _ member
    (fun use used => once use (Occurrence.mem_annotations_of_member placed declared used)) other
    left
  exact ⟨found, (Occurrence.mem_ofUnit_iff ..).mpr ⟨position, placed, member, declared, inside⟩,
    survives⟩

include apart once analysable stored in
/-- The occurrences of a migrated file were skipped, and are again. -/
theorem skipped_of_mem_migrated (other : Occurrence)
    (left : other ∈ Occurrence.ofUnit configuration (migrated configuration store unit)) :
    other.Skipped configuration := by
  obtain ⟨found, inside, still, file, type, value⟩ := survivor_of_mem_migrated apart once other left
  exact found.skipped_congr other file type value
    (found.skipped_of_still (analysable found inside) (stored found inside) still)

include apart once in
/-- A migrated file has as many occurrences as the work on it has skipped. -/
theorem length_ofUnit_migrated :
    (Occurrence.ofUnit configuration (migrated configuration store unit)).length =
      (unitTally configuration store unit).skipped := by
  rw [ofUnit_migrated, skipped_unitTally, Occurrence.ofUnit, List.length_flatMap,
    List.countP_flatMap]
  refine congrArg List.sum (List.map_congr_left fun position placed => ?_)
  rw [Function.comp_apply, Occurrence.ofClass, List.length_flatMap, List.countP_flatMap]
  refine congrArg List.sum (List.map_congr_left fun member declared => ?_)
  exact Relocation.length_ofMember_relocated apart unit.sourcePath position _ member
    fun use used => once use (Occurrence.mem_annotations_of_member placed declared used)

include apart once analysable stored in
/-- A file that a run has worked on has only skipped occurrences left, as many as the run
counted. -/
theorem Migrates.leftovers {report : FileReport}
    (migrates : Migrates configuration store unit report) :
    (∀ found ∈ Occurrence.ofUnit configuration report.unit, found.Skipped configuration) ∧
      (Occurrence.ofUnit configuration report.unit).length = report.tally.skipped := by
  rw [migrates.result, migrates.counted]
  split
  · exact ⟨skipped_of_mem_migrated apart once analysable stored,
      length_ofUnit_migrated apart once⟩
  · rename_i untouched
    rw [Occurrence.ofUnit_of_untouched configuration unit untouched]
    exact ⟨by simp, rfl⟩

end

end Apply

/-- A scan of occurrences that are all skipped records nothing. -/
theorem scanned_of_skipped (configuration : Configuration) (units : List CompilationUnit)
    (skipped : ∀ found ∈ Occurrence.ofBatch configuration units, found.Skipped configuration) :
    (scanned configuration units).store = .empty := by
  suffices still : ∀ (found : List Occurrence) (state : ScanState),
      (∀ one ∈ found, one.Skipped configuration) →
        found.foldl (ScanState.scan configuration) state = state by
    rw [scanned, still _ _ skipped]
    rfl
  intro found
  induction found with
  | nil => intro state _; rfl
  | cons first rest inductionHypothesis =>
    intro state skips
    rw [List.forall_mem_cons] at skips
    obtain ⟨⟨kind, anchor, reason, analysed⟩, others⟩ := skips
    have same : state.scan configuration first = state := by
      rw [ScanState.scan, analysed]
      rfl
    rw [List.foldl_cons, same, inductionHypothesis state others]

/-- A run that returns leaves skipped occurrences and nothing else. -/
theorem run_leftovers (configuration : Configuration) (units : List CompilationUnit)
    (report : RunReport)
    (once : ∀ unit ∈ units, ∀ use ∈ unit.annotations,
      use.AssignsOnce configuration.attributeName)
    (apart : ∀ kind holder, Holder.name? kind = some holder →
      configuration.attributeHolder ≠ configuration.valueHolder ++ "." ++ holder)
    (returned : (run configuration units ()).outcome = .ok report) (file : FileReport)
    (reported : file ∈ report.files) :
    (∀ found ∈ Occurrence.ofUnit configuration file.unit, found.Skipped configuration) ∧
      (Occurrence.ofUnit configuration file.unit).length = file.tally.skipped := by
  obtain ⟨unit, listed, migrated⟩ : ∃ unit ∈ units,
      Apply.Migrates configuration (scanned configuration units).store unit file := by
    obtain ⟨length, each⟩ :=
      List.forall₂_iff_get.mp (run_migrates configuration units report returned)
    obtain ⟨⟨place, bound⟩, rfl⟩ := List.mem_iff_get.mp reported
    exact ⟨_, List.get_mem .., each place (length ▸ bound) bound⟩
  have inBatch : ∀ found ∈ Occurrence.ofUnit configuration unit,
      found ∈ Occurrence.ofBatch configuration units :=
    fun found inside => List.mem_flatMap.mpr ⟨unit, listed, inside⟩
  obtain ⟨analysable, _, _⟩ := (run_returns_iff configuration units report).mp returned
  have records := scanned_records configuration units
  exact Apply.Migrates.leftovers apart (once unit listed)
    (fun found inside => analysable found (inBatch found inside))
    (fun found inside => records.complete found (inBatch found inside)) migrated

/-- Where no annotation assigns the attribute twice and the attribute holder is none of the
companions, a run on the files that a run has left returns them as they are. It adds no field,
relocates nothing, has no entries, and skips in each file what the first run skipped there.

What the first run left are skipped occurrences and nothing else. So the second scan records
nothing, and the work on each file, which then depends on the file only, leaves it. -/
theorem second_run_leaves_everything (configuration : Configuration)
    (units : List CompilationUnit) (report : RunReport)
    (once : ∀ unit ∈ units, ∀ use ∈ unit.annotations,
      use.AssignsOnce configuration.attributeName)
    (apart : ∀ kind holder, Holder.name? kind = some holder →
      configuration.attributeHolder ≠ configuration.valueHolder ++ "." ++ holder)
    (returned : (run configuration units ()).outcome = .ok report) :
    (run configuration report.units ()).outcome = .ok {
      files := report.files.map fun file =>
        { FileReport.untouched file.unit with tally := ⟨0, 0, 0, file.tally.skipped⟩ }
      entries := 0 } := by
  have leftovers := run_leftovers configuration units report once apart returned
  have skipped : ∀ found ∈ Occurrence.ofBatch configuration report.units,
      found.Skipped configuration := by
    intro found inside
    obtain ⟨_, listed, inside⟩ := List.mem_flatMap.mp inside
    obtain ⟨file, reported, rfl⟩ := List.mem_map.mp listed
    exact (leftovers file reported).1 found inside
  rw [run_returns_iff, scanned_of_skipped configuration report.units skipped]
  refine ⟨?_, ?_, rfl⟩
  · exact fun found inside => (skipped found inside).analysable
  · rw [RunReport.units, List.forall₂_map_left_iff, List.forall₂_map_right_iff, List.forall₂_same]
    intro file reported
    obtain ⟨skips, counted⟩ := leftovers file reported
    rw [← counted]
    exact (Apply.settled_of_skipped file.unit skips).file_leaves

/-- A file with a container of constants, a number and a member of an unsupported type. -/
def assortedClass : CompilationUnit :=
  let owner := some (ClassType.topLevel "p.A")
  singleClass
    [annotatedField (.generic (.topLevel "java.util.List") [.string]) (constantBehind "A" owner),
     annotatedField (.primitive "int") (.literal "\"12\"" none),
     annotatedField (.named (.topLevel "p.E")) (constantBehind "A" owner)]

/-- By default, no companion is of the type whose attribute is migrated. -/
theorem Configuration.default_apart (kind : Kind) (holder : String)
    (named : Holder.name? kind = some holder) :
    Configuration.attributeHolder {} ≠ Configuration.valueHolder {} ++ "." ++ holder := by
  cases kind <;> cases named <;> decide

/-- Of a container, a number and a member of an unsupported type, the first run relocates two and
skips one; a second run skips the one again and leaves the file. -/
theorem second_run_leaves_assorted :
    ∃ report, (run {} [assortedClass] ()).outcome = .ok report ∧
      report.entries = 1 ∧ report.files.map FileReport.tally = [⟨1, 2, 2, 1⟩] ∧
      (run {} report.units ()).outcome = .ok {
        files := report.files.map fun file =>
          { FileReport.untouched file.unit with tally := ⟨0, 0, 0, file.tally.skipped⟩ }
        entries := 0 } := by
  refine ⟨_, rfl, rfl, rfl, second_run_leaves_everything {} [assortedClass] _ ?_ ?_ rfl⟩
  · decide
  · exact Configuration.default_apart

end TypedDefaults
