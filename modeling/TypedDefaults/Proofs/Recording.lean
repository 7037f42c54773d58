import Mathlib.Data.List.Induction
import TypedDefaults.Proofs.Analyses
import TypedDefaults.Proofs.Completion
import TypedDefaults.Proofs.FreshNames
import TypedDefaults.Scan

/-!
# What a scan records

A scan is a fold over the occurrences of a batch. After any part of it every
occurrence with a key finds an entry, every entry was made for one of the
occurrences seen, and no two entries of a file have one field name. The step
lemma carries these facts over one occurrence, and the fold over all of them.
-/

namespace TypedDefaults

open Java

namespace Occurrence

/-- The analysis of an occurrence ends. -/
def Analysable (configuration : Configuration) (occurrence : Occurrence) : Prop :=
  ∃ analysis, occurrence.analyse configuration = .ok analysis

/-- The analysis of an occurrence gives it a key, for an anchor. -/
def Keyed (configuration : Configuration) (occurrence : Occurrence) (key : Key) (anchor : Anchor) :
    Prop :=
  ∃ analysis, occurrence.analyse configuration = .ok analysis ∧
    analysis.outcome = .keyed key anchor

/-- The occurrences of a batch, file by file. -/
def ofBatch (configuration : Configuration) (units : List CompilationUnit) : List Occurrence :=
  units.flatMap (ofUnit configuration)

/-- An occurrence in an annotation is made of the annotation, its place and its first assignment. -/
theorem ofAnnotationUse?_exact {configuration : Configuration} {file : String}
    {position : ClassPosition} {member : Member} {index : Nat} {use : AnnotationUse}
    {found : Occurrence}
    (here : ofAnnotationUse? configuration file position member index use = some found) :
    use.type.qualifiedName = configuration.attributeHolder ∧
      ∃ attributeIndex value,
        use.assigned? configuration.attributeName = some (attributeIndex, value) ∧
        found = ⟨file, position, member, index, use, attributeIndex, value⟩ := by
  rw [ofAnnotationUse?] at here
  split at here
  · rename_i holder
    obtain ⟨⟨attributeIndex, value⟩, assigned, rfl⟩ := Option.map_eq_some_iff.mp here
    exact ⟨holder, attributeIndex, value, assigned, rfl⟩
  · cases here

/-- An occurrence stands in an annotation of its member. -/
theorem mem_ofAnnotations (configuration : Configuration) (file : String)
    (position : ClassPosition) (member : Member) (index : Nat) (uses : List AnnotationUse)
    (occurrence : Occurrence)
    (found : occurrence ∈ ofAnnotations configuration file position member index uses) :
    occurrence.file = file ∧ occurrence.position = position ∧ occurrence.member = member ∧
      occurrence.holderUse ∈ uses ∧
      occurrence.holderUse.type.qualifiedName = configuration.attributeHolder ∧
      occurrence.holderUse.assigned? configuration.attributeName =
        some (occurrence.attributeIndex, occurrence.value) := by
  induction uses generalizing index with
  | nil => simp [ofAnnotations] at found
  | cons use rest inductionHypothesis =>
    rw [ofAnnotations, List.mem_append, Option.mem_toList] at found
    rcases found with here | later
    · obtain ⟨holder, attributeIndex, value, assigned, rfl⟩ := ofAnnotationUse?_exact here
      exact ⟨rfl, rfl, rfl, List.mem_cons_self, holder, assigned⟩
    · obtain ⟨file, position, member, inside, facts⟩ := inductionHypothesis (index + 1) later
      exact ⟨file, position, member, List.mem_cons_of_mem use inside, facts⟩

/-- The occurrences of a file are those of the members at its positions. -/
theorem mem_ofUnit_iff (configuration : Configuration) (unit : CompilationUnit)
    (occurrence : Occurrence) :
    occurrence ∈ ofUnit configuration unit ↔
      ∃ position ∈ unit.positions, ∃ member ∈ position.declaration.body,
        occurrence ∈ ofMember configuration unit.sourcePath position member := by
  rw [ofUnit, List.mem_flatMap]
  simp only [ofClass, List.mem_flatMap]

/-- An occurrence of a file has the path of the file, and stands at one of its positions. -/
theorem file_of_mem_ofUnit {configuration : Configuration} {unit : CompilationUnit}
    {occurrence : Occurrence} (found : occurrence ∈ ofUnit configuration unit) :
    occurrence.file = unit.sourcePath ∧ occurrence.position ∈ unit.positions := by
  obtain ⟨position, placed, member, _, inside⟩ := (mem_ofUnit_iff ..).mp found
  obtain ⟨file, rfl, _⟩ := mem_ofAnnotations _ _ _ _ _ _ _ inside
  exact ⟨file, placed⟩

/-- The annotations of its members are among those of a file. -/
theorem mem_annotations_of_member {unit : CompilationUnit} {position : ClassPosition}
    {member : Member} {use : AnnotationUse} (placed : position ∈ unit.positions)
    (declared : member ∈ position.declaration.body) (used : use ∈ member.annotations) :
    use ∈ unit.annotations :=
  List.mem_flatMap.mpr ⟨position, placed,
    List.mem_append_right _ (List.mem_flatMap.mpr ⟨member, declared, used⟩)⟩

/-- A file with an occurrence is touched by the run. -/
theorem touches_of_mem_ofUnit (configuration : Configuration) (unit : CompilationUnit)
    (occurrence : Occurrence) (found : occurrence ∈ ofUnit configuration unit) :
    configuration.touches unit = true := by
  obtain ⟨position, placed, member, declared, inside⟩ := (mem_ofUnit_iff ..).mp found
  obtain ⟨_, _, _, used, holder, _⟩ := mem_ofAnnotations _ _ _ _ _ _ _ inside
  have annotated := mem_annotations_of_member placed declared used
  have uses : unit.uses configuration.attributeHolder = true := by
    rw [CompilationUnit.uses, Bool.or_eq_true, List.any_eq_true, List.any_eq_true]
    exact .inr ⟨_, annotated, by simpa using holder⟩
  rw [Configuration.touches, uses, Bool.or_true]

/-- A file that the run does not touch has no occurrences. -/
theorem ofUnit_of_untouched (configuration : Configuration) (unit : CompilationUnit)
    (untouched : ¬configuration.touches unit = true) : ofUnit configuration unit = [] :=
  List.eq_nil_iff_forall_not_mem.mpr fun found inside =>
    untouched (touches_of_mem_ofUnit configuration unit found inside)

end Occurrence

/-- The state after one more occurrence. An analysis that does not end changes nothing. -/
def ScanState.scan (configuration : Configuration) (state : ScanState) (occurrence : Occurrence) :
    ScanState :=
  match occurrence.analyse configuration with
  | .ok analysis => (state.take occurrence analysis).1
  | .error _ => state

/-- The scan of an occurrence completes exactly if its analysis does. -/
theorem Scan.completes_occurrence (configuration : Configuration) (found : Occurrence)
    (before after : ScanState) :
    (∃ analysis, (Scan.occurrence configuration found).Gives before after analysis) ↔
      found.Analysable configuration ∧ after = before.scan configuration found := by
  simp only [Scan.occurrence, Work.gives_bind, Work.gives_ofExcept, Work.gives_state,
    Work.gives_modify, Work.gives_tell, Work.gives_pure, Occurrence.Analysable, ScanState.scan]
  constructor
  · rintro ⟨analysis, _, found, ⟨rfl, analysed⟩, _, state, ⟨rfl, rfl⟩, _, _, rfl, _, _, rfl, rfl,
      rfl⟩
    rw [analysed]
    exact ⟨⟨_, rfl⟩, rfl⟩
  · rintro ⟨⟨analysis, analysed⟩, rfl⟩
    rw [analysed]
    exact ⟨analysis, before, analysis, ⟨rfl, rfl⟩, before, before, ⟨rfl, rfl⟩, _, (), rfl, _, (),
      rfl, rfl, rfl⟩

/-- The scan of a file completes exactly if all analyses of it do. -/
theorem Scan.completes_touched (configuration : Configuration) (unit : CompilationUnit)
    (before after : ScanState) :
    (∃ ended, (Scan.touched configuration unit).Gives before after ended) ↔
      (∀ found ∈ Occurrence.ofUnit configuration unit, found.Analysable configuration) ∧
        after = (Occurrence.ofUnit configuration unit).foldl (ScanState.scan configuration)
          before := by
  rw [Scan.touched]
  split
  · rw [← Work.completes_forEach _ _ _ (Scan.completes_occurrence configuration)]
    simp only [Work.gives_inPhase, Work.gives_bind, Work.gives_pure, Scan.file]
    constructor
    · rintro ⟨_, _, analyses, scanned, rfl, _⟩
      exact ⟨analyses, scanned⟩
    · rintro ⟨analyses, scanned⟩
      exact ⟨(), after, analyses, scanned, rfl, trivial⟩
  · rename_i untouched
    rw [Occurrence.ofUnit_of_untouched configuration unit untouched]
    simp

/-- The scan of a batch completes exactly if all analyses of it do. It leaves the fold over the
occurrences of the batch. -/
theorem Scan.completes_batch (configuration : Configuration) (units : List CompilationUnit)
    (before after : ScanState) :
    (Scan.batch configuration units).Gives before after () ↔
      (∀ found ∈ Occurrence.ofBatch configuration units, found.Analysable configuration) ∧
        after = (Occurrence.ofBatch configuration units).foldl (ScanState.scan configuration)
          before := by
  have files := Work.completes_forEach _ _ _ (Scan.completes_touched configuration) units before
    after
  rw [Occurrence.ofBatch, List.foldl_flatMap]
  simp only [List.mem_flatMap, forall_exists_index, and_imp]
  rw [Scan.batch, Work.gives_inPhase, Work.gives_bind]
  constructor
  · rintro ⟨middle, ended, scanned, rest⟩
    obtain ⟨rfl, _⟩ := (Work.gives_pure ..).mp rest
    obtain ⟨analysable, folded⟩ := files.mp ⟨ended, scanned⟩
    exact ⟨fun found unit listed inside => analysable unit listed found inside, folded⟩
  · rintro ⟨analysable, folded⟩
    obtain ⟨ended, scanned⟩ := files.mpr
      ⟨fun unit listed found inside => analysable found unit listed inside, folded⟩
    exact ⟨after, ended, scanned, (Work.gives_pure ..).mpr ⟨rfl, rfl⟩⟩

/-- An entry as it is made for an occurrence with a key. -/
structure Entry.MadeFor (configuration : Configuration) (entry : Entry) (occurrence : Occurrence)
    (key : Key) (anchor : Anchor) : Prop where
  keyed : occurrence.Keyed configuration key anchor
  kind : entry.kind = occurrence.kind
  template : entry.template = FieldTemplate.ofKind? entry.fieldName occurrence.kind.storage
  context : entry.context = anchor.contextIn (some occurrence.scope)
  anchor : entry.anchor = anchor.expression
  scope : entry.scope = occurrence.scope
  apart : entry.fieldName ∉ ScanState.takenAt occurrence.position

/-- What a scan has recorded of the occurrences seen: entries are complete, made for occurrences,
and named apart. -/
structure ScanState.Records (configuration : Configuration) (seen : List Occurrence)
    (state : ScanState) : Prop where
  complete : ∀ occurrence ∈ seen, ∀ key anchor, occurrence.Keyed configuration key anchor →
    ∃ entry, state.store.get? key = some entry
  made : ∀ stored ∈ state.store.entries, ∃ occurrence ∈ seen, ∃ anchor,
    stored.2.MadeFor configuration occurrence stored.1 anchor
  names : state.names.given =
    state.store.entries.map fun stored => (stored.1.file, stored.2.fieldName)
  distinct : state.names.given.Nodup

/-- No two recorded entries of a file have one field name. -/
theorem ScanState.Records.fields_apart {configuration : Configuration} {seen : List Occurrence}
    {state : ScanState} (records : state.Records configuration seen) :
    (state.store.entries.map fun stored => (stored.1.file, stored.2.fieldName)).Nodup := by
  rw [← records.names]
  exact records.distinct

/-- The analysis of an occurrence with a key, wherever it is made, leads to the key. -/
theorem Occurrence.Keyed.outcome {configuration : Configuration} {occurrence : Occurrence}
    {key : Key} {anchor : Anchor} {analysis : Analysis}
    (keyed : occurrence.Keyed configuration key anchor)
    (analysed : occurrence.analyse configuration = .ok analysis) :
    analysis.outcome = .keyed key anchor := by
  obtain ⟨_, again, outcome⟩ := keyed
  obtain rfl := Except.ok.inj (again.symm.trans analysed)
  exact outcome

/-- An occurrence has one key at most, and one anchor for it. -/
theorem Occurrence.Keyed.unique {configuration : Configuration} {occurrence : Occurrence}
    {key other : Key} {anchor otherAnchor : Anchor}
    (keyed : occurrence.Keyed configuration key anchor)
    (second : occurrence.Keyed configuration other otherAnchor) :
    key = other ∧ anchor = otherAnchor := by
  obtain ⟨analysis, analysed, outcome⟩ := keyed
  exact Outcome.keyed.inj (outcome.symm.trans (second.outcome analysed))

/-- The key of an occurrence has its file. -/
theorem Occurrence.Keyed.file {configuration : Configuration} {occurrence : Occurrence} {key : Key}
    {anchor : Anchor} (keyed : occurrence.Keyed configuration key anchor) :
    key.file = occurrence.file := by
  obtain ⟨analysis, analysed, outcome⟩ := keyed
  obtain ⟨_, _, ⟨token, type, _, _, rfl⟩ | ⟨symbol, _, rfl⟩⟩ :=
    occurrence.analyse_keyed configuration analysis key anchor analysed outcome <;> rfl

/-- An occurrence with a key is of a kind that is stored, and so no string. -/
theorem Occurrence.Keyed.no_string {configuration : Configuration} {occurrence : Occurrence}
    {key : Key} {anchor : Anchor} (keyed : occurrence.Keyed configuration key anchor) :
    occurrence.kind ≠ .passThroughString := by
  obtain ⟨analysis, analysed, outcome⟩ := keyed
  obtain ⟨stored, _⟩ :=
    occurrence.analyse_keyed configuration analysis key anchor analysed outcome
  exact (occurrence.kind.stored_iff.mp stored).2

/-- The file of a key is part of its identity. -/
theorem Key.file_identity (key : Key) : key.identity.file = key.file := by
  cases key <;> rfl

/-- Entries are found by the identity of keys. -/
theorem Store.get?_congr (store : Store) {key other : Key} (same : key.identity = other.identity) :
    store.get? key = store.get? other := by
  rw [get?, get?, same]

/-- What is found under a key was stored under one with the same identity. -/
theorem Store.mem_of_get? (store : Store) (key : Key) (entry : Entry)
    (found : store.get? key = some entry) :
    ∃ stored, (stored, entry) ∈ store.entries ∧ stored.identity = key.identity := by
  obtain ⟨⟨stored, _⟩, first, rfl⟩ := Option.map_eq_some_iff.mp found
  exact ⟨stored, List.mem_of_find?_eq_some first, by simpa using List.find?_some first⟩

/-- An entry that is found under a key is still found when another entry is inserted. -/
theorem Store.get?_insert (store : Store) (key other : Key) (entry new : Entry)
    (found : store.get? other = some entry) : (store.insert key new).get? other = some entry := by
  obtain ⟨stored, first, rfl⟩ := Option.map_eq_some_iff.mp found
  rw [get?, insert, List.find?_append, first]
  rfl

/-- Under a key that was free, the entry just stored is found. -/
theorem Store.get?_insert_self (store : Store) (key : Key) (new : Entry)
    (free : store.get? key = none) : (store.insert key new).get? key = some new := by
  have none : store.entries.find? (fun stored => stored.1.identity = key.identity) = none :=
    Option.map_eq_none_iff.mp free
  rw [get?, insert, List.find?_append, none]
  simp

/-- What an entry for an occurrence is made of. -/
theorem ScanState.entryFor_made (configuration : Configuration) (state : ScanState)
    (occurrence : Occurrence) (key : Key) (anchor : Anchor)
    (keyed : occurrence.Keyed configuration key anchor) :
    (state.entryFor occurrence occurrence.kind anchor).1.MadeFor configuration occurrence key
      anchor :=
  { keyed := keyed
    kind := rfl
    template := rfl
    context := rfl
    anchor := rfl
    scope := rfl
    apart := (state.names.give_exact occurrence.file _ _ (takenAt occurrence.position)).2.1 }

/-- A name given out for a file is not among the names given out before. -/
theorem ScanState.entryFor_named_apart (state : ScanState) (occurrence : Occurrence)
    (anchor : Anchor) :
    (occurrence.file, (state.entryFor occurrence occurrence.kind anchor).1.fieldName) ∉
      state.names.given := by
  intro given
  have unused := (state.names.give_exact occurrence.file
    (state.baseFor occurrence.file anchor) (FieldName.ending occurrence.kind.storage)
    (takenAt occurrence.position)).1
  apply unused
  exact List.mem_map.mpr ⟨_, List.mem_filter.mpr ⟨given, by simp⟩, rfl⟩

/-- Recording a further occurrence under a free key keeps the records. -/
theorem ScanState.Records.record {configuration : Configuration} {seen : List Occurrence}
    {state : ScanState} (records : state.Records configuration seen) (occurrence : Occurrence)
    (key : Key) (anchor : Anchor) (keyed : occurrence.Keyed configuration key anchor)
    (free : state.store.get? key = none) :
    ScanState.Records configuration (seen ++ [occurrence])
      ⟨state.store.insert key (state.entryFor occurrence occurrence.kind anchor).1,
        (state.entryFor occurrence occurrence.kind anchor).2⟩ where
  complete := by
    intro other inside otherKey otherAnchor otherKeyed
    rcases List.mem_append.mp inside with before | last
    · obtain ⟨entry, found⟩ := records.complete other before otherKey otherAnchor otherKeyed
      exact ⟨entry, state.store.get?_insert key otherKey entry _ found⟩
    · obtain rfl := List.mem_singleton.mp last
      obtain ⟨rfl, rfl⟩ := keyed.unique otherKeyed
      exact ⟨_, state.store.get?_insert_self key _ free⟩
  made := by
    intro stored inside
    rcases List.mem_append.mp inside with before | last
    · obtain ⟨other, seenBefore, madeFor⟩ := records.made stored before
      exact ⟨other, List.mem_append_left _ seenBefore, madeFor⟩
    · obtain rfl := List.mem_singleton.mp last
      exact ⟨occurrence, List.mem_append_right _ List.mem_cons_self, anchor,
        state.entryFor_made configuration occurrence key anchor keyed⟩
  names := by
    change state.names.given ++ [_] = List.map _ (state.store.entries ++ [_])
    rw [List.map_append, records.names, List.map_singleton, keyed.file]
    rfl
  distinct := by
    change (state.names.given ++ [_]).Nodup
    rw [List.nodup_append_comm, List.singleton_append, List.nodup_cons]
    exact ⟨state.entryFor_named_apart occurrence anchor, records.distinct⟩

/-- Seeing an occurrence that needs no new entry keeps the records. -/
theorem ScanState.Records.see {configuration : Configuration} {seen : List Occurrence}
    {state : ScanState} (records : state.Records configuration seen) (occurrence : Occurrence)
    (settled : ∀ key anchor, occurrence.Keyed configuration key anchor →
      ∃ entry, state.store.get? key = some entry) :
    state.Records configuration (seen ++ [occurrence]) where
  complete := by
    intro other inside key anchor keyed
    rcases List.mem_append.mp inside with before | last
    · exact records.complete other before key anchor keyed
    · obtain rfl := List.mem_singleton.mp last
      exact settled key anchor keyed
  made := by
    intro stored inside
    obtain ⟨other, before, madeFor⟩ := records.made stored inside
    exact ⟨other, List.mem_append_left _ before, madeFor⟩
  names := records.names
  distinct := records.distinct

/-- A scan of an occurrence that finds an entry, or needs none, changes nothing; one that finds none
stores the entry made for the occurrence. -/
theorem ScanState.scan_cases (configuration : Configuration) (state : ScanState)
    (occurrence : Occurrence) :
    (state.scan configuration occurrence = state ∧
        ∀ key anchor, occurrence.Keyed configuration key anchor →
          ∃ entry, state.store.get? key = some entry) ∨
      ∃ key anchor, occurrence.Keyed configuration key anchor ∧ state.store.get? key = none ∧
        state.scan configuration occurrence =
          ⟨state.store.insert key (state.entryFor occurrence occurrence.kind anchor).1,
            (state.entryFor occurrence occurrence.kind anchor).2⟩ := by
  rw [ScanState.scan]
  cases analysed : occurrence.analyse configuration with
  | error numeral =>
    left
    refine ⟨rfl, ?_⟩
    rintro key anchor ⟨analysis, ended, _⟩
    rw [analysed] at ended
    cases ended
  | ok analysis =>
    cases outcome : analysis.outcome with
    | keyed key anchor =>
      simp only [ScanState.take, outcome, ScanState.record,
        occurrence.analysis_kind configuration analysis analysed]
      cases found : state.store.get? key with
      | some entry =>
        left
        refine ⟨rfl, ?_⟩
        intro otherKey otherAnchor otherKeyed
        obtain ⟨rfl, rfl⟩ :=
          Outcome.keyed.inj (outcome.symm.trans (otherKeyed.outcome analysed))
        exact ⟨entry, found⟩
      | none => exact .inr ⟨key, anchor, ⟨analysis, analysed, outcome⟩, found, rfl⟩
    | _ =>
      left
      simp only [ScanState.take, outcome]
      refine ⟨trivial, ?_⟩
      intro key anchor keyed
      exact absurd (outcome.symm.trans (keyed.outcome analysed)) (by simp)

/-- One more occurrence keeps the records. -/
theorem ScanState.Records.scan {configuration : Configuration} {seen : List Occurrence}
    {state : ScanState} (records : state.Records configuration seen) (occurrence : Occurrence) :
    (state.scan configuration occurrence).Records configuration (seen ++ [occurrence]) := by
  rcases state.scan_cases configuration occurrence with
    ⟨same, settled⟩ | ⟨key, anchor, keyed, free, next⟩
  · rw [same]
    exact records.see occurrence settled
  · rw [next]
    exact records.record occurrence key anchor keyed free

/-- A scan from nothing records all that it has seen. -/
theorem ScanState.records_foldl (configuration : Configuration) (seen : List Occurrence) :
    (seen.foldl (ScanState.scan configuration) (.starting .empty)).Records configuration seen := by
  induction seen using List.reverseRecOn with
  | nil =>
    exact ⟨by simp, by simp [ScanState.starting, Store.empty], rfl, List.nodup_nil⟩
  | append_singleton seen occurrence inductionHypothesis =>
    rw [List.foldl_append]
    exact inductionHypothesis.scan occurrence

end TypedDefaults
