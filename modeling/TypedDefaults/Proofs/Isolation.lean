import TypedDefaults.Proofs.Migration

/-!
# Files apart

A run keeps one store and one registry of names for all files, each entry and
each name under the path of its file. What is kept under a path comes from the
occurrences with that path alone: a step of the scan changes only what is kept
under the path of its occurrence, and reads no more than that. The work on a file
reads no other entries either. So files with different paths are migrated as if
each were alone, and only files of one path meet.
-/

namespace TypedDefaults

open Java

/-- The entries of a file. -/
def Store.restricted (store : Store) (file : String) : Store :=
  ⟨store.entries.filter fun stored => stored.1.file = file⟩

/-- The names given out for a file. -/
def NameRegistry.restricted (registry : NameRegistry) (file : String) : NameRegistry :=
  ⟨registry.given.filter fun entry => entry.1 = file⟩

/-- The entries and names of a file. -/
def ScanState.restricted (state : ScanState) (file : String) : ScanState :=
  ⟨state.store.restricted file, state.names.restricted file⟩

namespace Store

/-- Under keys of a file, its own entries are found. -/
theorem get?_restricted (store : Store) (file : String) (key : Key) (own : key.file = file) :
    (store.restricted file).get? key = store.get? key := by
  rw [get?, get?, restricted, List.find?_filter]
  congr 2
  funext stored
  by_cases identified : stored.1.identity = key.identity
  · have found : stored.1.file = file := by
      rw [← stored.1.file_identity, identified, key.file_identity, own]
    simp [identified, found]
  · simp [identified]

/-- An entry under a key of the file is among the entries of the file. -/
theorem restricted_insert (store : Store) (key : Key) (entry : Entry) :
    (store.insert key entry).restricted key.file =
      (store.restricted key.file).insert key entry := by
  simp [restricted, insert]

/-- An entry under a key of another file is not among the entries of a file. -/
theorem restricted_insert_other (store : Store) (file : String) (key : Key) (entry : Entry)
    (other : key.file ≠ file) :
    (store.insert key entry).restricted file = store.restricted file := by
  simp [restricted, insert, other]

/-- The literals of a file are counted among its own entries. -/
theorem countLiterals_restricted (store : Store) (file : String) :
    (store.restricted file).countLiterals file = store.countLiterals file := by
  rw [countLiterals, countLiterals, restricted, List.filter_filter]
  congr 2
  funext stored
  rcases stored with ⟨key, entry⟩
  cases key with
  | symbol other symbol kind => simp [Key.isLiteralOf]
  | literal other token =>
    by_cases same : other = file <;> simp [Key.isLiteralOf, Key.file, same]

/-- The entries for a class of a file are among its own. -/
theorem entriesFor_restricted (store : Store) (file : String) (scope : ClassType) :
    (store.restricted file).entriesFor file scope = store.entriesFor file scope := by
  rw [entriesFor, entriesFor, entriesOf, entriesOf, restricted, List.filter_filter]
  simp only [Bool.and_self]

end Store

namespace NameRegistry

/-- The names of a file are kept with its own. -/
theorem namesOf_restricted (registry : NameRegistry) (file : String) :
    (registry.restricted file).namesOf file = registry.namesOf file := by
  rw [namesOf, namesOf, restricted, List.filter_filter]
  simp only [Bool.and_self]

/-- A name for a file is given out in sight of the names of the file alone. -/
theorem give_restricted (registry : NameRegistry) (file base ending : String)
    (taken : List String) :
    (registry.restricted file).give file base ending taken =
      ((registry.give file base ending taken).1,
        (registry.give file base ending taken).2.restricted file) := by
  rw [give, give, namesOf_restricted]
  simp [restricted]

/-- A name given out for another file is none of those given out for a file. -/
theorem restricted_give_other (registry : NameRegistry) (file other base ending : String)
    (taken : List String) (apart : other ≠ file) :
    (registry.give other base ending taken).2.restricted file = registry.restricted file := by
  simp [give, restricted, apart]

end NameRegistry

namespace ScanState

/-- An entry is made from what is kept for the file of its occurrence. -/
theorem entryFor_restricted (state : ScanState) (occurrence : Occurrence) (kind : Kind)
    (anchor : Anchor) :
    (state.restricted occurrence.file).entryFor occurrence kind anchor =
      ((state.entryFor occurrence kind anchor).1,
        (state.entryFor occurrence kind anchor).2.restricted occurrence.file) := by
  have base : (state.restricted occurrence.file).baseFor occurrence.file anchor =
      state.baseFor occurrence.file anchor := by
    cases anchor with
    | literal token type =>
      rw [baseFor, baseFor, restricted, Store.countLiterals_restricted]
    | _ => rfl
  simp only [entryFor, base]
  rw [restricted, NameRegistry.give_restricted]

/-- Recording an occurrence does to what is kept for its file what it does to the whole. -/
theorem record_restricted (state : ScanState) (occurrence : Occurrence) (kind : Kind) (key : Key)
    (anchor : Anchor) (own : key.file = occurrence.file) :
    (state.record occurrence kind key anchor).1.restricted occurrence.file =
      ((state.restricted occurrence.file).record occurrence kind key anchor).1 := by
  have found : (state.restricted occurrence.file).store.get? key = state.store.get? key :=
    state.store.get?_restricted occurrence.file key own
  rw [record, record, found]
  cases state.store.get? key with
  | some entry => rfl
  | none =>
    simp only [entryFor_restricted]
    rw [restricted, ← own, Store.restricted_insert]
    rfl

/-- Recording an occurrence does nothing to what is kept for another file. -/
theorem record_restricted_other (state : ScanState) (file : String) (occurrence : Occurrence)
    (kind : Kind) (key : Key) (anchor : Anchor) (own : key.file = occurrence.file)
    (other : occurrence.file ≠ file) :
    (state.record occurrence kind key anchor).1.restricted file = state.restricted file := by
  rw [record]
  cases state.store.get? key with
  | some entry => rfl
  | none =>
    have names := state.names.restricted_give_other file occurrence.file
      (state.baseFor occurrence.file anchor) (FieldName.ending kind.storage)
      (takenAt occurrence.position) other
    have store := state.store.restricted_insert_other file key
      (state.entryFor occurrence kind anchor).1 (own ▸ other)
    rw [restricted, restricted, ← names, ← store]
    rfl

/-- One step of the scan changes what is kept for the file of its occurrence, as it would if this
were all, and nothing of other files. -/
theorem scan_restricted (configuration : Configuration) (state : ScanState) (file : String)
    (occurrence : Occurrence) :
    (state.scan configuration occurrence).restricted file =
      if occurrence.file = file then (state.restricted file).scan configuration occurrence
      else state.restricted file := by
  rw [scan, scan]
  cases analysed : occurrence.analyse configuration with
  | error numeral => simp
  | ok analysis =>
    cases outcome : analysis.outcome with
    | keyed key anchor =>
      have own : key.file = occurrence.file :=
        Occurrence.Keyed.file ⟨analysis, analysed, outcome⟩
      simp only [take, outcome]
      split
      · rename_i here
        subst here
        exact state.record_restricted occurrence _ key anchor own
      · rename_i other
        exact state.record_restricted_other file occurrence _ key anchor own other
    | _ => simp [take, outcome]

/-- A scan leaves for a file what the occurrences with its path leave alone. -/
theorem foldl_scan_restricted (configuration : Configuration) (file : String)
    (seen : List Occurrence) (state : ScanState) :
    (seen.foldl (scan configuration) state).restricted file =
      (seen.filter fun occurrence => occurrence.file = file).foldl (scan configuration)
        (state.restricted file) := by
  induction seen generalizing state with
  | nil => rfl
  | cons occurrence rest inductionHypothesis =>
    rw [List.foldl_cons, inductionHypothesis, scan_restricted, List.filter_cons]
    by_cases here : occurrence.file = file
    · simp [here]
    · simp [here]

end ScanState

/-- The occurrences of a batch with a path are those of its files with that path. -/
theorem Occurrence.filter_ofBatch (configuration : Configuration) (units : List CompilationUnit)
    (path : String) :
    (ofBatch configuration units).filter (fun occurrence => occurrence.file = path) =
      ofBatch configuration (units.filter fun unit => unit.sourcePath = path) := by
  induction units with
  | nil => rfl
  | cons unit rest inductionHypothesis =>
    have files : ∀ occurrence ∈ ofUnit configuration unit, occurrence.file = unit.sourcePath :=
      fun occurrence found => (file_of_mem_ofUnit found).1
    rw [ofBatch, List.flatMap_cons, List.filter_append, ← ofBatch, inductionHypothesis,
      List.filter_cons]
    by_cases here : unit.sourcePath = path
    · have all : (ofUnit configuration unit).filter (fun occurrence => occurrence.file = path) =
          ofUnit configuration unit := by
        rw [List.filter_eq_self]
        intro occurrence found
        rw [files occurrence found]
        exact decide_eq_true here
      rw [all, if_pos (decide_eq_true here), ofBatch, ofBatch, List.flatMap_cons]
    · have none : (ofUnit configuration unit).filter (fun occurrence => occurrence.file = path) =
          [] := by
        rw [List.filter_eq_nil_iff]
        intro occurrence found
        rw [files occurrence found]
        simpa using here
      rw [none, if_neg (by simpa using here), List.nil_append]

/-- The scan of a batch leaves for a path what the scan of its files with that path leaves. -/
theorem scanned_restricted (configuration : Configuration) (units : List CompilationUnit)
    (path : String) :
    (scanned configuration units).restricted path =
      scanned configuration (units.filter fun unit => unit.sourcePath = path) := by
  rw [scanned, ScanState.foldl_scan_restricted, Occurrence.filter_ofBatch]
  rfl

/-- What is due for an occurrence is found among the entries of its file. -/
theorem Due.ofAnalysis_restricted (configuration : Configuration) (store : Store)
    (found : Occurrence) (analysis : Analysis)
    (analysed : found.analyse configuration = .ok analysis) :
    Due.ofAnalysis configuration (store.restricted found.file) found analysis =
      Due.ofAnalysis configuration store found analysis := by
  rw [ofAnalysis, ofAnalysis]
  cases outcome : analysis.outcome with
  | keyed key anchor =>
    have own : key.file = found.file := Occurrence.Keyed.file ⟨analysis, analysed, outcome⟩
    simp only [store.get?_restricted found.file key own]
  | _ => rfl

namespace Relocation

variable (configuration : Configuration) (store : Store)

/-- The value of an occurrence is relocated with the entries of its file. -/
theorem occurrence_restricted (found : Occurrence) :
    occurrence configuration (store.restricted found.file) found =
      occurrence configuration store found := by
  funext progress
  rw [occurrence, occurrence]
  cases analysed : found.analyse configuration with
  | error numeral => rfl
  | ok analysis =>
    have due := Due.ofAnalysis_restricted configuration store found analysis analysed
    change (pure analysis >>= _ : Work Action Tally OversizedNumeral Progress) = pure analysis >>= _
    rw [pure_bind, pure_bind, due]

/-- The values of occurrences of one file are relocated with the entries of the file. -/
theorem occurrences_restricted (file : String) (found : List Occurrence)
    (own : ∀ occurrence ∈ found, occurrence.file = file) (progress : Progress) :
    occurrences configuration (store.restricted file) found progress =
      occurrences configuration store found progress := by
  induction found generalizing progress with
  | nil => rfl
  | cons first rest inductionHypothesis =>
    rw [List.forall_mem_cons] at own
    obtain ⟨rfl, others⟩ := own
    rw [occurrences, occurrences, occurrence_restricted]
    congr 1
    funext after
    exact inductionHypothesis others after

/-- The values in a class body are relocated with the entries of the file. -/
theorem body_restricted (file : String) (position : ClassPosition) :
    body configuration (store.restricted file) file position =
      body configuration store file position := by
  have each : member configuration (store.restricted file) file position =
      member configuration store file position := by
    funext given
    have own : ∀ occurrence ∈ Occurrence.ofMember configuration file position given,
        occurrence.file = file :=
      fun occurrence found => (Occurrence.mem_ofAnnotations _ _ _ _ _ _ _ found).1
    rw [member, member, occurrences_restricted configuration store file _ own]
  funext given
  rw [body, body, members, members, each]

end Relocation

namespace Apply

variable (configuration : Configuration) (store : Store) (unit : CompilationUnit)

/-- A class is changed with the entries of its file. -/
theorem visit_restricted :
    visit configuration (store.restricted unit.sourcePath) unit =
      visit configuration store unit := by
  funext position current
  have fields : (Synthesis.fields (store.restricted unit.sourcePath) unit.imports unit.sourcePath
      current : Work Action Tally FieldError _) =
        Synthesis.fields store unit.imports unit.sourcePath current := by
    rw [Synthesis.fields, Synthesis.fields, Synthesis.due, Synthesis.due,
      Store.entriesFor_restricted]
  rw [visit, visit, fields, Relocation.body_restricted]

/-- A file is changed with its own entries. -/
theorem file_restricted :
    file configuration (store.restricted unit.sourcePath) unit = file configuration store unit := by
  have changed : change configuration (store.restricted unit.sourcePath) unit =
      change configuration store unit := by
    rw [change, change, visit_restricted]
  have worked : outcome configuration (store.restricted unit.sourcePath) unit =
      outcome configuration store unit := by
    funext start
    rw [outcome, outcome, changed]
  rw [file, file, worked]

end Apply

end TypedDefaults
