import TypedDefaults.Proofs.Agreement
import TypedDefaults.Proofs.Reports
import TypedDefaults.Proofs.TraceNesting

/-!
# Events and counters

The phases of a run count what they do, and tell it, side by side: the scan
stores an entry and notes that it has, a relocation adds to the tally and notes
the change. Work accounts for events if every amount that it keeps grows by the
number of events of its type that it makes known, and if it closes the phases
that it opens. This holds of a whole piece of work if it holds of its parts, and
the parts are few. So the trace of a run agrees with the report.
-/

namespace TypedDefaults

open Java

/-- The action notes an event of a type. -/
def Action.isOf (type : EventType) (action : Action) : Bool :=
  action.noted?.any fun event => event.type = type

/-- Between two states, amounts have grown by the numbers of events of their types among the
actions, which have closed the phases that they have opened. -/
structure Accounts {σ : Type} (amount : EventType → σ → Nat) (types : List EventType) (before : σ)
    (known : List Action) (after : σ) : Prop where
  counted : ∀ type ∈ types,
    amount type after = amount type before + known.countP (Action.isOf type)
  bracketed : Bracketed known

namespace Accounts

variable {σ : Type} {amount : EventType → σ → Nat} {types : List EventType}

/-- Where nothing is made known, the amounts stay. -/
theorem quiet {before after : σ}
    (same : ∀ type ∈ types, amount type after = amount type before) :
    Accounts amount types before [] after :=
  ⟨same, .nothing⟩

/-- What happens later is added to what happened before. -/
theorem append {before middle after : σ} {first second : List Action}
    (front : Accounts amount types before first middle)
    (back : Accounts amount types middle second after) :
    Accounts amount types before (first ++ second) after where
  counted := by
    intro type inside
    rw [back.counted type inside, front.counted type inside, List.countP_append, Nat.add_assoc]
  bracketed := front.bracketed.append back.bracketed

/-- A note adds one to the amount of its type. -/
theorem noted {before after : σ} (note : Note)
    (counts : ∀ type ∈ types, amount type after =
      amount type before + if (Event.note note).type = type then 1 else 0) :
    Accounts amount types before [.note note] after where
  counted := by
    intro type inside
    rw [counts type inside, List.countP_singleton]
    simp [Action.isOf, Action.noted?]
  bracketed := .noted note

/-- A note of another type adds to none of the amounts. -/
theorem aside {before after : σ} (note : Note) (other : (Event.note note).type ∉ types)
    (same : ∀ type ∈ types, amount type after = amount type before) :
    Accounts amount types before [.note note] after := by
  apply noted
  intro type inside
  rw [same type inside, if_neg, Nat.add_zero]
  rintro rfl
  exact other inside

/-- A phase around actions is no event of any type that is accounted for. -/
theorem inPhase (name detail : String) {before after : σ} {known : List Action}
    (inside : Accounts amount types before known after) :
    Accounts amount types before (.openPhase name detail :: known ++ [.closePhase]) after where
  counted := by
    intro type counted
    rw [inside.counted type counted, List.cons_append, List.countP_cons, List.countP_append]
    rfl
  bracketed := inside.bracketed.inPhase name detail

end Accounts

namespace Work

variable {σ ε δ α β : Type} {amount : EventType → σ → Nat} {types : List EventType}

/-- Wherever the work ends, what it has done to the state accounts for what it has made known. -/
def Accounted (amount : EventType → σ → Nat) (types : List EventType) (work : Work Action σ ε α) :
    Prop :=
  ∀ before after value, Gives work before after value →
    Accounts amount types before (work before).known after

theorem accounted_pure (value : α) :
    Accounted amount types (pure value : Work Action σ ε α) := by
  intro before after given gives
  obtain ⟨rfl, _⟩ := (gives_pure ..).mp gives
  exact .quiet fun _ _ => rfl

theorem accounted_ofExcept (result : Except ε α) :
    Accounted amount types (ofExcept result : Work Action σ ε α) := by
  intro before after given gives
  obtain ⟨rfl, rfl⟩ := (gives_ofExcept ..).mp gives
  exact .quiet fun _ _ => rfl

/-- A sequence of two accounts where both do. -/
theorem accounted_bind {first : Work Action σ ε α} {next : α → Work Action σ ε β}
    (front : Accounted amount types first) (back : ∀ value, Accounted amount types (next value)) :
    Accounted amount types (first >>= next) := by
  intro before after given gives
  obtain ⟨middle, value, began, ended⟩ := (gives_bind ..).mp gives
  rw [known_bind began]
  exact (front before middle value began).append (back value middle after given ended)

theorem accounted_modify {change : σ → σ}
    (same : ∀ state, ∀ type ∈ types, amount type (change state) = amount type state) :
    Accounted amount types (modify change : Work Action σ ε Unit) := by
  intro before after given gives
  obtain rfl := (gives_modify ..).mp gives
  exact .quiet (same before)

/-- What is made known first may be counted afterwards. -/
theorem accounted_counted {first : Work Action σ ε α} (change : α → σ → σ)
    {next : α → Work Action σ ε β}
    (counted : ∀ before middle value, Gives first before middle value →
      Accounts amount types before (first before).known (change value middle))
    (back : ∀ value, Accounted amount types (next value)) :
    Accounted amount types
      (first >>= fun value => modify (change value) >>= fun _ => next value) := by
  intro before after given gives
  obtain ⟨middle, value, began, ended⟩ := (gives_bind ..).mp gives
  obtain ⟨reached, _, modified, ended⟩ := (gives_bind ..).mp ended
  rw [known_bind began, known_bind modified]
  obtain rfl := (gives_modify ..).mp modified
  exact (counted before middle value began).append (back value _ after given ended)

/-- A note may be counted afterwards. -/
theorem accounted_noted (note : Note) (change : σ → σ) {next : Work Action σ ε β}
    (counts : ∀ state, ∀ type ∈ types, amount type (change state) =
      amount type state + if (Event.note note).type = type then 1 else 0)
    (back : Accounted amount types next) :
    Accounted amount types (Work.note note >>= fun _ => modify change >>= fun _ => next) := by
  refine accounted_counted (fun _ => change) (fun before middle _ gives => ?_) fun _ => back
  obtain rfl := (gives_note ..).mp gives
  exact .noted note (counts middle)

/-- Work on a list accounts where the work on each part does. -/
theorem accounted_forEach {work : α → Work Action σ ε β} (parts : List α)
    (each : ∀ part ∈ parts, Accounted amount types (work part)) :
    Accounted amount types (forEach work parts) := by
  induction parts with
  | nil => exact accounted_pure []
  | cons part rest inductionHypothesis =>
    rw [List.forall_mem_cons] at each
    exact accounted_bind each.1 fun value =>
      accounted_bind (inductionHypothesis each.2) fun values => accounted_pure (value :: values)

theorem accounted_mapFailure (change : ε → δ) {work : Work Action σ ε α}
    (inner : Accounted amount types work) : Accounted amount types (mapFailure change work) :=
  fun before after value gives =>
    inner before after value ((gives_mapFailure change work before after value).mp gives)

theorem accounted_inPhase (name detail : String) {work : Work Action σ ε α}
    (inner : Accounted amount types work) :
    Accounted amount types (inPhase name detail work) :=
  fun before after value gives =>
    (inner before after value ((gives_inPhase ..).mp gives)).inPhase name detail

/-- Work accounts where it does without its value. -/
theorem accounted_forget_iff (work : Work Action σ ε α) :
    Accounted amount types (forget work) ↔ Accounted amount types work := by
  simp only [Accounted, gives_forget, known_forget, forall_exists_index]
  exact ⟨fun inner before after value gives => inner before after () value gives,
    fun inner before after _ value gives => inner before after value gives⟩

end Work

namespace ScanState

/-- What a scan counts: the entries stored, for the events of entries recorded. -/
def amount (type : EventType) (state : ScanState) : Nat :=
  if type = .entryRecorded then state.store.size else 0

/-- The types of events that a scan accounts for; those other than entries recorded do not occur. -/
def accounted : List EventType := [.entryRecorded, .treeMutation, .importAction]

/-- Looking for an entry accounts for the note that it leaves: it is stored if it is recorded. -/
theorem record_accounts (state : ScanState) (found : Occurrence) (kind : Kind) (key : Key)
    (anchor : Anchor) :
    Accounts amount accounted state [.note (state.record found kind key anchor).2]
      (state.record found kind key anchor).1 := by
  rw [record]
  cases state.store.get? key with
  | some entry =>
    exact .aside _ (by decide : EventType.entryReused ∉ accounted) fun _ _ => rfl
  | none =>
    apply Accounts.noted
    intro type inside
    have stored : ∀ entry : Entry, (state.store.insert key entry).size = state.store.size + 1 :=
      fun entry => List.length_append
    rw [amount, amount, stored]
    by_cases recorded : type = .entryRecorded
    · subst recorded
      rfl
    · rw [if_neg recorded, if_neg recorded, if_neg]
      exact fun same => recorded same.symm

/-- Taking an analysed occurrence accounts for its notes. -/
theorem take_accounts (state : ScanState) (found : Occurrence) (analysis : Analysis) :
    Accounts amount accounted state ((state.take found analysis).2.map .note)
      (state.take found analysis).1 := by
  rcases analysis with ⟨kind, anchor, outcome⟩
  cases outcome with
  | skipped reason =>
    exact .aside _ (by decide : EventType.occurrenceSkipped ∉ accounted) fun _ _ => rfl
  | passedThrough => exact .quiet fun _ _ => rfl
  | inPlace value => exact .quiet fun _ _ => rfl
  | keyed key keyedAnchor => exact state.record_accounts found kind key keyedAnchor

end ScanState

namespace Scan

variable (configuration : Configuration)

/-- The scan of an occurrence takes its analysis. -/
theorem occurrence_eq (found : Occurrence) (analysis : Analysis) (before : ScanState)
    (analysed : found.analyse configuration = .ok analysis) :
    occurrence configuration found before =
      ⟨(before.take found analysis).1, (before.take found analysis).2.map .note, .ok analysis⟩ := by
  have known : [] ++ ([] ++ ([] ++ ((before.take found analysis).2.map Action.note ++ []))) =
      (before.take found analysis).2.map Action.note := by simp
  rw [← known, occurrence, analysed]
  rfl

/-- The scan of an occurrence accounts for what it notes. -/
theorem accounted_occurrence (found : Occurrence) :
    Work.Accounted ScanState.amount ScanState.accounted (occurrence configuration found) := by
  intro before after given gives
  obtain ⟨_, analysis, analysed, _⟩ := (Work.gives_bind ..).mp gives
  obtain ⟨_, analysed⟩ := (Work.gives_ofExcept ..).mp analysed
  rw [Work.Gives, occurrence_eq configuration found analysis before analysed] at gives
  obtain ⟨rfl, _⟩ := gives
  rw [occurrence_eq configuration found analysis before analysed]
  exact before.take_accounts found analysis

/-- The scan of a batch accounts for what it notes. -/
theorem accounted_batch (units : List CompilationUnit) :
    Work.Accounted ScanState.amount ScanState.accounted (batch configuration units) := by
  refine Work.accounted_inPhase _ _ (Work.accounted_bind
    (Work.accounted_forEach _ fun unit _ => ?_) fun _ => Work.accounted_pure ())
  rw [touched]
  split
  · exact Work.accounted_inPhase _ _ (Work.accounted_bind
      (Work.accounted_forEach _ fun found _ => accounted_occurrence configuration found)
      fun _ => Work.accounted_pure ())
  · exact Work.accounted_pure ()

end Scan

namespace Tally

/-- The changes of the tree that a tally counts. -/
def changes (tally : Tally) : Nat := tally.fieldsAdded + tally.relocated + tally.companions

/-- What the work on a file counts: the changes of the tree. -/
def amount (type : EventType) (tally : Tally) : Nat :=
  if type = .treeMutation then tally.changes else 0

/-- The types of events that the work on the classes of a file accounts for. -/
def accounted : List EventType := [.entryRecorded, .entryReused, .treeMutation, .importAction]

/-- More changes are more of one amount. -/
theorem amount_add (type : EventType) (tally after : Tally) (more : Nat)
    (grown : after.changes = tally.changes + more) :
    amount type after = amount type tally + if .treeMutation = type then more else 0 := by
  rw [amount, amount]
  by_cases changed : type = .treeMutation
  · rw [if_pos changed, if_pos changed, if_pos changed.symm, grown]
  · rw [if_neg changed, if_neg changed, if_neg (Ne.symm changed)]

/-- Before any work there is no change. -/
theorem amount_zero (type : EventType) : amount type .zero = 0 := ite_self 0

/-- Without further changes the amounts stay. -/
theorem amount_same (type : EventType) (tally after : Tally)
    (same : after.changes = tally.changes) : amount type after = amount type tally := by
  rw [amount, amount, same]

end Tally

namespace Synthesis

variable {σ : Type}

/-- The note of a field that is made. -/
def fieldNote (field : FieldDeclaration) : Note :=
  .transformed "FieldDeclaration" "" (Text.join "\n" ((Member.field field).print 0))

/-- Making a field makes the note of the field known. -/
theorem known_make (imports : List Import) (entry : Entry) (before after : σ)
    (field : FieldDeclaration)
    (gives : (make imports entry : Work Action σ FieldError _).Gives before after field) :
    (make imports entry before : Done Action σ FieldError _).known = [.note (fieldNote field)] := by
  rw [make] at gives ⊢
  obtain ⟨_, found, filled, gives⟩ := (Work.gives_bind ..).mp gives
  obtain ⟨_, _, told, gives⟩ := (Work.gives_bind ..).mp gives
  rw [Work.known_bind filled, Work.known_bind told]
  obtain ⟨_, rfl⟩ := (Work.gives_pure ..).mp gives
  obtain ⟨_, filled⟩ := (Work.gives_ofExcept ..).mp filled
  rw [filled]
  rfl

/-- Making the fields of a class makes known the note of each of them. -/
theorem known_fields (store : Store) (imports : List Import) (file : String)
    (declaration : ClassDeclaration) (before after : σ) (given : List FieldDeclaration)
    (gives : (fields store imports file declaration : Work Action σ FieldError _).Gives before after
      given) :
    (fields store imports file declaration before : Done Action σ FieldError _).known =
      (given.map fieldNote).map .note := by
  rw [fields] at gives ⊢
  generalize due store file declaration = entries at gives ⊢
  induction entries generalizing before after given with
  | nil =>
    obtain ⟨_, rfl⟩ := (Work.gives_forEach_nil ..).mp gives
    rfl
  | cons entry rest inductionHypothesis =>
    obtain ⟨middle, field, made, gives⟩ := (Work.gives_bind ..).mp gives
    obtain ⟨_, others, later, gives⟩ := (Work.gives_bind ..).mp gives
    rw [Work.forEach, Work.known_bind made, Work.known_bind later,
      known_make imports entry before middle field made, inductionHypothesis _ _ _ later]
    obtain ⟨_, rfl⟩ := (Work.gives_pure ..).mp gives
    simp

/-- The notes of fields are changes of the tree, one for each field. -/
theorem countP_fieldNotes (type : EventType) (given : List FieldDeclaration) :
    ((given.map fieldNote).map Action.note).countP (Action.isOf type) =
      if .treeMutation = type then given.length else 0 := by
  rw [List.map_map, List.countP_map]
  split
  · rename_i changed
    subst changed
    exact List.countP_eq_length.mpr fun _ _ => rfl
  · rename_i other
    refine List.countP_eq_zero.mpr fun field _ changed => other ?_
    exact of_decide_eq_true changed

end Synthesis

namespace Relocation

variable (configuration : Configuration) (store : Store)

/-- Work on an occurrence accounts for its change, if it makes one. -/
theorem accounted_occurrence (found : Occurrence) (progress : Progress) :
    Work.Accounted Tally.amount Tally.accounted
      (occurrence configuration store found progress) := by
  refine Work.accounted_bind (Work.accounted_ofExcept _) fun analysis => ?_
  cases Due.ofAnalysis configuration store found analysis with
  | nothing =>
    exact Work.accounted_bind
      (Work.accounted_modify fun tally type _ => Tally.amount_same type tally _ rfl)
      fun _ => Work.accounted_pure _
  | missingEntry =>
    refine Work.accounted_noted _ _ (fun tally type inside => ?_) (Work.accounted_pure _)
    rw [if_neg]
    · exact Tally.amount_same type tally _ rfl
    · rintro rfl
      exact absurd inside (by decide : EventType.analysisWarning ∉ Tally.accounted)
  | relocate value =>
    refine Work.accounted_noted _ _ (fun tally type _ => ?_) (Work.accounted_pure _)
    refine Tally.amount_add type tally _ 1 ?_
    simp only [Tally.changes]
    omega

/-- Work on occurrences accounts for the changes that it makes. -/
theorem accounted_occurrences (found : List Occurrence) (progress : Progress) :
    Work.Accounted Tally.amount Tally.accounted
      (occurrences configuration store found progress) := by
  induction found generalizing progress with
  | nil => exact Work.accounted_pure progress
  | cons first rest inductionHypothesis =>
    exact Work.accounted_bind (accounted_occurrence configuration store first progress)
      inductionHypothesis

/-- Adding companions accounts for those that are added. -/
theorem accounted_addCompanions (new uses : List AnnotationUse) :
    Work.Accounted Tally.amount Tally.accounted (addCompanions new uses) := by
  induction new generalizing uses with
  | nil => exact Work.accounted_pure uses
  | cons first rest inductionHypothesis =>
    rw [addCompanions]
    split
    · exact inductionHypothesis uses
    · refine Work.accounted_noted _ _ (fun tally type _ => ?_) (inductionHypothesis _)
      exact Tally.amount_add type tally _ 1 rfl

/-- The work on a body accounts for the changes of its members. -/
theorem accounted_body (file : String) (position : ClassPosition) (given : List Member) :
    Work.Accounted Tally.amount Tally.accounted
      (body configuration store file position given) := by
  refine Work.accounted_bind (Work.accounted_forEach _ fun member _ => ?_)
    fun _ => Work.accounted_pure _
  refine Work.accounted_bind ?_ fun _ => Work.accounted_pure _
  exact Work.accounted_bind (accounted_occurrences configuration store _ _) fun progress =>
    Work.accounted_bind (accounted_addCompanions progress.companions progress.annotations)
      fun _ => Work.accounted_pure _

end Relocation

namespace Apply

variable {configuration : Configuration} {store : Store} {unit : CompilationUnit}

/-- The work on a class accounts for its changes. The fields are made known one by one, and counted
together behind that. -/
theorem accounted_visit (position : ClassPosition) (current : ClassDeclaration) :
    Work.Accounted Tally.amount Tally.accounted
      (visit configuration store unit position current) := by
  rw [visit]
  refine Work.accounted_counted (fun (fields : List FieldDeclaration) (tally : Tally) =>
    { tally with fieldsAdded := tally.fieldsAdded + fields.length })
    (fun before middle fields gives => ?_) fun fields => ?_
  · rw [Work.gives_mapFailure] at gives
    obtain ⟨_, rfl, _⟩ := (Synthesis.gives_fields ..).mp gives
    have known : (((Synthesis.fields store unit.imports unit.sourcePath current).mapFailure
        .template : Work Action Tally ApplyFailure _) middle).known = _ :=
      Synthesis.known_fields _ _ _ _ _ _ _ gives
    rw [known]
    refine ⟨fun type _ => ?_, .notes _⟩
    rw [Synthesis.countP_fieldNotes]
    refine Tally.amount_add type middle _ fields.length ?_
    simp only [Tally.changes]
    omega
  · refine Work.accounted_bind (Work.accounted_mapFailure _
      (Relocation.accounted_body _ _ _ _ _)) fun changed => ?_
    cases changed <;> exact Work.accounted_pure _

/-- The work on the classes of a file accounts for the changes that it makes. -/
theorem accounted_rebuild :
    Work.Accounted Tally.amount Tally.accounted
      (unit.rebuild (visit configuration store unit)) := by
  rw [← Work.accounted_forget_iff, unit.forget_rebuild visit_makes, Work.accounted_forget_iff]
  exact Work.accounted_forEach _ fun position _ => accounted_visit position _

end Apply

end TypedDefaults
