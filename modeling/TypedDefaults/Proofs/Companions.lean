import TypedDefaults.Proofs.Analyses
import TypedDefaults.Proofs.Rebuilding
import TypedDefaults.Proofs.Recording
import TypedDefaults.Relocation

/-!
# Relocated members

What the second phase makes of a member is said here without steps: every
annotation is stripped of a value that moves, and the companions of the moved
values are attached in order, each unless its type is there. The steps are then
shown to do exactly this, and to count it.
-/

namespace TypedDefaults

open Java

namespace Tally

/-- Tallies are added field by field. -/
instance : Add Tally :=
  ⟨fun left right =>
    ⟨left.fieldsAdded + right.fieldsAdded, left.relocated + right.relocated,
      left.companions + right.companions, left.skipped + right.skipped⟩⟩

instance : Zero Tally := ⟨.zero⟩

theorem add_eq (left right : Tally) :
    left + right = ⟨left.fieldsAdded + right.fieldsAdded, left.relocated + right.relocated,
      left.companions + right.companions, left.skipped + right.skipped⟩ := rfl

theorem zero_eq : (0 : Tally) = ⟨0, 0, 0, 0⟩ := rfl

instance : AddCommMonoid Tally where
  add_assoc first second third := by simp only [add_eq, Nat.add_assoc]
  zero_add tally := by simp only [add_eq, zero_eq, Nat.zero_add]
  add_zero tally := by simp only [add_eq, zero_eq, Nat.add_zero]
  add_comm left right := by
    rw [add_eq, add_eq, Nat.add_comm left.fieldsAdded, Nat.add_comm left.relocated,
      Nat.add_comm left.companions, Nat.add_comm left.skipped]
  nsmul := nsmulRec

end Tally

/-- The value is taken out of its annotation. -/
def Due.moves : Due → Bool
  | relocate _ => true
  | _ => false

/-- The value for a companion, where there is to be one. -/
def Due.value? : Due → Option Expression
  | relocate value => value
  | _ => none

/-- What one occurrence adds to the tally. -/
def Due.tally (due : Due) : Tally := if due.moves then ⟨0, 1, 0, 0⟩ else ⟨0, 0, 0, 1⟩

namespace Occurrence

variable (configuration : Configuration) (store : Store)

/-- What is due for an occurrence. Nothing is where its analysis does not end. -/
def due (found : Occurrence) : Due :=
  match found.analyse configuration with
  | .ok analysis => Due.ofAnalysis configuration store found analysis
  | .error _ => .nothing

/-- The annotation of an occurrence as the second phase leaves it. -/
def stripped (found : Occurrence) : AnnotationUse :=
  if (found.due configuration store).moves then
    found.holderUse.withoutArgument found.attributeIndex
  else found.holderUse

/-- The companion that takes the value of an occurrence. -/
def companion? (found : Occurrence) : Option AnnotationUse :=
  (found.due configuration store).value? >>= companion configuration found.kind

end Occurrence

/-- Attaches an annotation, unless one of its type is there. -/
def attachUse (uses : List AnnotationUse) (new : AnnotationUse) : List AnnotationUse :=
  if uses.any fun use => use.type.qualifiedName = new.type.qualifiedName then uses
  else insertUse new uses

/-- Wherever an annotation is inserted, it is the only new one. -/
theorem insertUse_perm (new : AnnotationUse) (uses : List AnnotationUse) :
    (insertUse new uses).Perm (new :: uses) := by
  induction uses with
  | nil => exact List.Perm.refl _
  | cons use rest inductionHypothesis =>
    rw [insertUse]
    split
    · exact List.Perm.refl _
    · exact (inductionHypothesis.cons use).trans (List.Perm.swap new use rest)

/-- What is attached to annotations is some of what was to be, in any order of places. -/
theorem attachUse_perm (new uses : List AnnotationUse) :
    ∃ attached : List AnnotationUse, attached ⊆ new ∧
      (new.foldl attachUse uses).Perm (attached ++ uses) := by
  induction new generalizing uses with
  | nil => exact ⟨[], List.Subset.refl _, List.Perm.refl _⟩
  | cons first rest inductionHypothesis =>
    obtain ⟨attached, among, same⟩ := inductionHypothesis (attachUse uses first)
    rw [List.foldl_cons]
    rw [attachUse] at same ⊢
    split at same
    · rename_i present
      rw [if_pos present]
      exact ⟨attached, fun use inside => List.mem_cons_of_mem _ (among inside), same⟩
    · rename_i absent
      rw [if_neg absent]
      refine ⟨attached ++ [first], ?_, ?_⟩
      · intro use inside
        rcases List.mem_append.mp inside with before | last
        · exact List.mem_cons_of_mem _ (among before)
        · exact List.mem_singleton.mp last ▸ List.mem_cons_self
      · rw [List.append_assoc]
        exact same.trans ((insertUse_perm first uses).append_left attached)

/-- Attaching loses no annotation. -/
theorem length_le_attachUse (new uses : List AnnotationUse) :
    uses.length ≤ (new.foldl attachUse uses).length := by
  obtain ⟨attached, _, same⟩ := attachUse_perm new uses
  rw [same.length_eq, List.length_append]
  omega

namespace Relocation

variable (configuration : Configuration) (store : Store)

/-- An annotation of a member, stripped of a value that moves. -/
def strippedUse (file : String) (position : ClassPosition) (member : Member)
    (use : AnnotationUse) : AnnotationUse :=
  ((Occurrence.ofAnnotationUse? configuration file position member 0 use).map
    (Occurrence.stripped configuration store)).getD use

/-- The annotations of a member, each stripped of a value that moves. -/
def strippedUses (file : String) (position : ClassPosition) (member : Member) :
    List AnnotationUse :=
  member.annotations.map (strippedUse configuration store file position member)

/-- The companions of a member, in the order of its occurrences. -/
def companionsOf (file : String) (position : ClassPosition) (member : Member) :
    List AnnotationUse :=
  (Occurrence.ofMember configuration file position member).filterMap
    (Occurrence.companion? configuration store)

/-- The annotations of a relocated member. -/
def relocatedUses (file : String) (position : ClassPosition) (member : Member) :
    List AnnotationUse :=
  (companionsOf configuration store file position member).foldl attachUse
    (strippedUses configuration store file position member)

/-- The member with its values relocated. -/
def relocated (file : String) (position : ClassPosition) (member : Member) : Member :=
  member.withAnnotations (relocatedUses configuration store file position member)

/-- What a member adds to the tally. -/
def memberTally (file : String) (position : ClassPosition) (member : Member) : Tally :=
  ((Occurrence.ofMember configuration file position member).map fun found =>
      (found.due configuration store).tally).sum +
    ⟨0, 0, (relocatedUses configuration store file position member).length -
      member.annotations.length, 0⟩

end Relocation

namespace Relocation

variable {configuration : Configuration} {store : Store}

/-- The progress after one more occurrence. -/
def Progress.advance (configuration : Configuration) (store : Store) (progress : Progress)
    (found : Occurrence) : Progress :=
  if (found.due configuration store).moves then
    progress.strip configuration found found.kind (found.due configuration store).value?
  else progress

/-- Work on an occurrence completes exactly if its analysis does, makes the progress and counts. -/
theorem gives_occurrence (found : Occurrence) (progress result : Progress) (before after : Tally) :
    (occurrence configuration store found progress).Gives before after result ↔
      found.Analysable configuration ∧
        after = before + (found.due configuration store).tally ∧
        result = progress.advance configuration store found := by
  rw [occurrence, Work.gives_bind]
  simp only [Work.gives_ofExcept, Occurrence.Analysable]
  constructor
  · rintro ⟨middle, analysis, ⟨rfl, analysed⟩, rest⟩
    refine ⟨⟨analysis, analysed⟩, ?_⟩
    rw [Progress.advance, Occurrence.due, analysed]
    rw [found.analysis_kind configuration analysis analysed] at rest
    cases due : Due.ofAnalysis configuration store found analysis <;>
      simpa [due, Work.gives_bind, Due.tally, Due.moves, Due.value?, Tally.add_eq] using rest
  · rintro ⟨⟨analysis, analysed⟩, rfl, rfl⟩
    refine ⟨before, analysis, ⟨rfl, analysed⟩, ?_⟩
    rw [Progress.advance, Occurrence.due, analysed,
      found.analysis_kind configuration analysis analysed]
    cases due : Due.ofAnalysis configuration store found analysis <;>
      simp [due, Work.gives_bind, Due.tally, Due.moves, Due.value?, Tally.add_eq]

/-- Work on occurrences completes exactly if all their analyses do. -/
theorem gives_occurrences (found : List Occurrence) (progress result : Progress)
    (before after : Tally) :
    (occurrences configuration store found progress).Gives before after result ↔
      (∀ one ∈ found, one.Analysable configuration) ∧
        after = before + (found.map fun one => (one.due configuration store).tally).sum ∧
        result = found.foldl (Progress.advance configuration store) progress := by
  induction found generalizing progress before with
  | nil => simp [occurrences]
  | cons first rest inductionHypothesis =>
    rw [occurrences, Work.gives_bind]
    simp only [gives_occurrence, inductionHypothesis, List.forall_mem_cons, List.map_cons,
      List.sum_cons, List.foldl_cons, ← add_assoc]
    constructor
    · rintro ⟨middle, _, ⟨analysable, rfl, rfl⟩, others, rfl, rfl⟩
      exact ⟨⟨analysable, others⟩, rfl, rfl⟩
    · rintro ⟨⟨analysable, others⟩, rfl, rfl⟩
      exact ⟨_, _, ⟨analysable, rfl, rfl⟩, others, rfl, rfl⟩

/-- The place of an annotation is noted in its occurrence, and tells nothing else. -/
theorem ofAnnotationUse?_place (configuration : Configuration) (file : String)
    (position : ClassPosition) (member : Member) (index : Nat) (use : AnnotationUse) :
    Occurrence.ofAnnotationUse? configuration file position member index use =
      (Occurrence.ofAnnotationUse? configuration file position member 0 use).map fun found =>
        { found with annotationIndex := index } := by
  simp only [Occurrence.ofAnnotationUse?]
  split
  · rw [Option.map_map]
    rfl
  · rfl

/-- One annotation takes the progress on by its occurrence, if there is one. -/
theorem advance_use (file : String) (position : ClassPosition) (member : Member)
    (settled rest companions : List AnnotationUse) (use : AnnotationUse) (changed : Bool)
    (found : List Occurrence)
    (here : found = (Occurrence.ofAnnotationUse? configuration file position member settled.length
      use).toList) :
    found.foldl (Progress.advance configuration store)
        ⟨settled ++ use :: rest, companions, changed⟩ =
      ⟨settled ++ strippedUse configuration store file position member use :: rest,
        companions ++ found.filterMap (Occurrence.companion? configuration store),
        changed || found.any fun one => (one.due configuration store).moves⟩ := by
  subst here
  rw [strippedUse, ofAnnotationUse?_place]
  cases assigned : Occurrence.ofAnnotationUse? configuration file position member 0 use with
  | none => simp
  | some one =>
    have written : one.holderUse = use := by
      obtain ⟨_, _, _, _, rfl⟩ := Occurrence.ofAnnotationUse?_exact assigned
      rfl
    have same : ({ one with annotationIndex := settled.length } : Occurrence).due configuration
        store = one.due configuration store := rfl
    simp only [Option.map_some, Option.toList_some, List.foldl_cons, List.foldl_nil,
      Option.getD_some, List.filterMap_cons, List.filterMap_nil, List.any_cons, List.any_nil,
      Bool.or_false, Progress.advance, Occurrence.stripped, Occurrence.companion?, same]
    cases due : one.due configuration store with
    | relocate value =>
      simp only [Due.moves, Due.value?, if_true, Progress.strip, Bool.or_true,
        List.set_append_right _ _ (Nat.le_refl _), Nat.sub_self, List.set_cons_zero]
      congr 1
    | _ => simp [Due.moves, Due.value?, written]

/-- All annotations of a member are stripped in their places, and their companions are collected. -/
theorem advance_uses (configuration : Configuration) (store : Store) (file : String)
    (position : ClassPosition) (member : Member) (settled rest companions : List AnnotationUse)
    (changed : Bool) :
    (Occurrence.ofAnnotations configuration file position member settled.length rest).foldl
        (Progress.advance configuration store) ⟨settled ++ rest, companions, changed⟩ =
      ⟨settled ++ rest.map (strippedUse configuration store file position member),
        companions ++
          (Occurrence.ofAnnotations configuration file position member settled.length
            rest).filterMap (Occurrence.companion? configuration store),
        changed ||
          (Occurrence.ofAnnotations configuration file position member settled.length rest).any
            fun one => (one.due configuration store).moves⟩ := by
  induction rest generalizing settled companions changed with
  | nil => simp [Occurrence.ofAnnotations]
  | cons use rest inductionHypothesis =>
    rw [Occurrence.ofAnnotations, List.foldl_append,
      advance_use file position member settled rest companions use changed _ rfl]
    have later := inductionHypothesis
      (settled ++ [strippedUse configuration store file position member use])
    simp only [List.length_append, List.length_singleton, List.append_assoc,
      List.singleton_append] at later
    rw [later, List.map_cons, List.filterMap_append, List.any_append, List.append_assoc,
      Bool.or_assoc]

/-- The progress over a whole member. -/
theorem advance_member (file : String) (position : ClassPosition) (member : Member) :
    (Occurrence.ofMember configuration file position member).foldl
        (Progress.advance configuration store) ⟨member.annotations, [], false⟩ =
      ⟨strippedUses configuration store file position member,
        companionsOf configuration store file position member,
        (Occurrence.ofMember configuration file position member).any
          fun one => (one.due configuration store).moves⟩ := by
  have whole := advance_uses configuration store file position member [] member.annotations []
    false
  rwa [List.nil_append, List.nil_append, List.nil_append, Bool.false_or] at whole

/-- Adding companions completes with all of them attached, and counts those that were not there. -/
theorem gives_addCompanions (new uses result : List AnnotationUse) (before after : Tally) :
    (addCompanions new uses).Gives before after result ↔
      after = before + ⟨0, 0, (new.foldl attachUse uses).length - uses.length, 0⟩ ∧
        result = new.foldl attachUse uses := by
  induction new generalizing uses before with
  | nil => simp [addCompanions, Tally.add_eq]
  | cons first rest inductionHypothesis =>
    rw [addCompanions, List.foldl_cons, attachUse]
    split
    · exact inductionHypothesis uses before
    · have length := (insertUse_perm first uses).length_eq
      have grown := length_le_attachUse rest (insertUse first uses)
      have counted : (rest.foldl attachUse (insertUse first uses)).length - uses.length =
          1 + ((rest.foldl attachUse (insertUse first uses)).length -
            (insertUse first uses).length) := by
        rw [List.length_cons] at length
        omega
      simp only [Work.gives_bind, Work.gives_note, Work.gives_modify, inductionHypothesis]
      rw [counted]
      simp [Tally.add_eq, Nat.add_assoc]

/-- A member keeps its annotations when it is given the same ones. -/
theorem withAnnotations_self (member : Member) :
    member.withAnnotations member.annotations = member := by
  cases member <;> rfl

/-- The occurrence in an annotation of a member is one of the member's, but for its place. -/
theorem exists_mem_ofAnnotations (file : String) (position : ClassPosition) (member : Member)
    (index : Nat) (uses : List AnnotationUse) (use : AnnotationUse) (inside : use ∈ uses)
    (found : Occurrence)
    (here : Occurrence.ofAnnotationUse? configuration file position member 0 use = some found) :
    ∃ place, { found with annotationIndex := place } ∈
      Occurrence.ofAnnotations configuration file position member index uses := by
  induction uses generalizing index with
  | nil => cases inside
  | cons first rest inductionHypothesis =>
    rcases List.mem_cons.mp inside with rfl | later
    · refine ⟨index, List.mem_append_left _ ?_⟩
      rw [ofAnnotationUse?_place, here]
      exact List.mem_singleton_self _
    · obtain ⟨place, member⟩ := inductionHypothesis (index + 1) later
      exact ⟨place, List.mem_append_right _ member⟩

/-- An annotation is stripped to itself if its value does not move. -/
theorem strippedUse_of_still (file : String) (position : ClassPosition) (member : Member)
    (use : AnnotationUse)
    (still : ∀ found,
      Occurrence.ofAnnotationUse? configuration file position member 0 use = some found →
      (found.due configuration store).moves = false) :
    strippedUse configuration store file position member use = use := by
  rw [strippedUse]
  cases here : Occurrence.ofAnnotationUse? configuration file position member 0 use with
  | none => rfl
  | some found =>
    have written : found.holderUse = use := by
      obtain ⟨_, _, _, _, rfl⟩ := Occurrence.ofAnnotationUse?_exact here
      rfl
    simp [Occurrence.stripped, still found here, written]

/-- Stripping an annotation keeps its type. -/
theorem type_strippedUse (file : String) (position : ClassPosition) (member : Member)
    (use : AnnotationUse) :
    (strippedUse configuration store file position member use).type = use.type := by
  rw [strippedUse]
  cases here : Occurrence.ofAnnotationUse? configuration file position member 0 use with
  | none => rfl
  | some found =>
    obtain ⟨_, _, _, _, rfl⟩ := Occurrence.ofAnnotationUse?_exact here
    rw [Option.map_some, Option.getD_some, Occurrence.stripped]
    split <;> rfl

/-- A type that no annotation of a member has is none of theirs once they are stripped. -/
theorem strippedUses_lack (configuration : Configuration) (store : Store) (file : String)
    (position : ClassPosition) (member : Member) (type : String)
    (lacking : ∀ old ∈ member.annotations, old.type.qualifiedName ≠ type) :
    ∀ old ∈ strippedUses configuration store file position member,
      old.type.qualifiedName ≠ type := by
  intro old listed
  obtain ⟨before, annotated, rfl⟩ := List.mem_map.mp listed
  rw [type_strippedUse]
  exact lacking before annotated

/-- Where a value does not move, there is no companion for it. -/
theorem companion?_of_still (found : Occurrence)
    (still : (found.due configuration store).moves = false) :
    found.companion? configuration store = none := by
  rw [Occurrence.companion?]
  cases due : found.due configuration store with
  | relocate value => simp [due, Due.moves] at still
  | _ => rfl

/-- A member of which nothing moves has the annotations that it had. -/
theorem relocatedUses_of_still (file : String) (position : ClassPosition) (member : Member)
    (still : ∀ found ∈ Occurrence.ofMember configuration file position member,
      (found.due configuration store).moves = false) :
    relocatedUses configuration store file position member = member.annotations := by
  have companions : companionsOf configuration store file position member = [] :=
    List.filterMap_eq_nil_iff.mpr fun found inside => companion?_of_still found (still found inside)
  have uses : strippedUses configuration store file position member = member.annotations := by
    refine (List.map_congr_left fun use inside => ?_).trans (List.map_id _)
    apply strippedUse_of_still
    intro found here
    obtain ⟨place, within⟩ :=
      exists_mem_ofAnnotations file position member 0 member.annotations use inside found here
    exact still { found with annotationIndex := place } within
  rw [relocatedUses, companions, uses, List.foldl_nil]

/-- An annotation of a relocated member is the companion of one of its occurrences, or one that the
member had, stripped. -/
theorem mem_relocatedUses (file : String) (position : ClassPosition) (member : Member)
    (use : AnnotationUse)
    (inside : use ∈ relocatedUses configuration store file position member) :
    (∃ found ∈ Occurrence.ofMember configuration file position member,
        found.companion? configuration store = some use) ∨
      ∃ before ∈ member.annotations,
        strippedUse configuration store file position member before = use := by
  obtain ⟨attached, among, same⟩ := attachUse_perm
    (companionsOf configuration store file position member)
    (strippedUses configuration store file position member)
  rw [relocatedUses, same.mem_iff, List.mem_append] at inside
  rcases inside with new | old
  · exact .inl (List.mem_filterMap.mp (among new))
  · exact .inr (List.mem_map.mp old)

/-- The annotations of a relocated member. -/
theorem annotations_relocated (file : String) (position : ClassPosition) (member : Member) :
    (relocated configuration store file position member).annotations =
      relocatedUses configuration store file position member := by
  cases member <;> rfl

/-- Work on a member completes exactly if all its analyses do. -/
theorem gives_member (file : String) (position : ClassPosition) (given : Member)
    (before after : Tally) (answer : Option Member) :
    (member configuration store file position given).Gives before after answer ↔
      (∀ one ∈ Occurrence.ofMember configuration file position given,
        one.Analysable configuration) ∧
      after = before + memberTally configuration store file position given ∧
      answer = if (Occurrence.ofMember configuration file position given).any
          (fun one => (one.due configuration store).moves) then
        some (relocated configuration store file position given) else none := by
  have length : (strippedUses configuration store file position given).length =
      given.annotations.length := List.length_map ..
  rw [member, Work.gives_bind]
  simp only [gives_occurrences, Work.gives_bind, gives_addCompanions, Work.gives_pure,
    advance_member]
  rw [memberTally, relocated, relocatedUses, ← add_assoc, ← length]
  constructor
  · rintro ⟨middle, progress, ⟨analysable, rfl, rfl⟩, _, _, ⟨rfl, rfl⟩, rfl, rfl⟩
    exact ⟨analysable, rfl, rfl⟩
  · rintro ⟨analysable, rfl, rfl⟩
    exact ⟨_, _, ⟨analysable, rfl, rfl⟩, _, _, ⟨rfl, rfl⟩, rfl, rfl⟩

/-- Work on the members of a body that completes leaves them relocated. -/
theorem body_makes (file : String) (position : ClassPosition) (given : List Member)
    (before after : Tally) (answer : Option (List Member))
    (worked : (body configuration store file position given).Gives before after answer) :
    answer.getD given = given.map (relocated configuration store file position) ∧
      after = before + (given.map (memberTally configuration store file position)).sum := by
  rw [body, Work.gives_bind] at worked
  obtain ⟨middle, replaced, inner, ended⟩ := worked
  obtain ⟨rfl, rfl⟩ := (Work.gives_pure ..).mp ended
  refine replaceEach_makes (member configuration store file position) _ _ given ?_ before _
    replaced inner
  intro part inside before after replacement gives
  obtain ⟨_, counted, rfl⟩ := (gives_member ..).mp gives
  refine ⟨?_, counted⟩
  split
  · rfl
  · rename_i still
    rw [relocated, relocatedUses_of_still file position part (by simpa using still),
      withAnnotations_self]
    rfl

/-- Nothing comes of a body in which all analyses end and nothing moves. -/
theorem body_leaves (configuration : Configuration) (store : Store) (file : String)
    (position : ClassPosition) (given : List Member)
    (still : ∀ member ∈ given, ∀ found ∈ Occurrence.ofMember configuration file position member,
      found.Analysable configuration ∧ (found.due configuration store).moves = false)
    (before : Tally) :
    (body configuration store file position given).Gives before
      (before + (given.map (memberTally configuration store file position)).sum) none := by
  obtain ⟨replaced, inner, untouched⟩ := replaceEach_leaves
    (member configuration store file position)
    (memberTally configuration store file position) given
    (fun member inside before => (gives_member ..).mpr
      ⟨fun found within => (still member inside found within).1, rfl, by
        rw [if_neg]
        simpa using fun found within => (still member inside found within).2⟩) before
  rw [body, Work.gives_bind]
  exact ⟨_, replaced, inner, (Work.gives_pure ..).mpr ⟨rfl, untouched.symm⟩⟩

end Relocation

end TypedDefaults
