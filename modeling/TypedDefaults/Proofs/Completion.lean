import Mathlib.Data.List.Forall2
import TypedDefaults.Work

/-!
# Work that completes

A piece of work either gives a value and leaves a state, or fails. What it made
known on the way is of no interest here. The laws open composite work from the
outside, so a proof about a phase reads the steps of the phase one after the
other; each is an equivalence, which serves for taking a finished run apart and
for showing that a run does finish.
-/

namespace TypedDefaults.Work

variable {ω σ ε δ α β : Type}

/-- Sequences of work may be grouped in any way, and pure work adds nothing to them. -/
instance : LawfulMonad (Work ω σ ε) := by
  refine LawfulMonad.mk' _ ?_ ?_ ?_
  · intro α work
    funext state
    change andThen work (fun value => pure value) state = work state
    rcases ended : work state with ⟨after, known, outcome⟩
    cases outcome <;> simp [andThen, ended]
  · intro α β value next
    funext state
    rw [bind_of_ok (pure_apply value state)]
    simp
  · intro α β γ first next last
    funext state
    rcases ended : first state with ⟨middle, known, outcome⟩
    cases outcome with
    | error failure => rw [bind_of_error (bind_of_error ended), bind_of_error ended]
    | ok value =>
      rw [bind_of_ok ended, bind_apply, andThen, bind_of_ok ended]
      rcases continued : next value middle with ⟨later, further, outcome⟩
      cases outcome with
      | error failure => rw [bind_of_error continued]
      | ok result =>
        rw [bind_of_ok continued]
        simp only [List.append_assoc]

/-- The work started in a state leaves another one and gives a value. -/
def Gives (work : Work ω σ ε α) (before after : σ) (value : α) : Prop :=
  (work before).state = after ∧ (work before).outcome = .ok value

/-- The work started in a state fails. -/
def Fails (work : Work ω σ ε α) (before : σ) (failure : ε) : Prop :=
  (work before).outcome = .error failure

@[simp] theorem gives_pure (value given : α) (before after : σ) :
    Gives (pure value : Work ω σ ε α) before after given ↔ after = before ∧ given = value := by
  simp [Gives, eq_comm]

@[simp] theorem gives_state (before after given : σ) :
    Gives (state : Work ω σ ε σ) before after given ↔ after = before ∧ given = before := by
  simp [Gives, state, eq_comm]

@[simp] theorem gives_modify (change : σ → σ) (before after : σ) (given : Unit) :
    Gives (modify change : Work ω σ ε Unit) before after given ↔ after = change before := by
  simp [Gives, modify, eq_comm]

@[simp] theorem gives_tell (known : List ω) (before after : σ) (given : Unit) :
    Gives (tell known : Work ω σ ε Unit) before after given ↔ after = before := by
  simp [Gives, tell, eq_comm]

@[simp] theorem gives_note (noted : Note) (before after : σ) (given : Unit) :
    Gives (note noted : Work Action σ ε Unit) before after given ↔ after = before := by
  simp [note]

@[simp] theorem gives_ofExcept (result : Except ε α) (before after : σ) (given : α) :
    Gives (ofExcept result : Work ω σ ε α) before after given ↔
      after = before ∧ result = .ok given := by
  cases result <;> simp [Gives, ofExcept, done, fail, eq_comm]

/-- A sequence completes exactly when its first part does and the rest does from there. -/
theorem gives_bind (first : Work ω σ ε α) (next : α → Work ω σ ε β) (before after : σ)
    (given : β) :
    Gives (first >>= next) before after given ↔
      ∃ middle value, Gives first before middle value ∧ Gives (next value) middle after given := by
  rcases ended : first before with ⟨middle, known, outcome⟩
  cases outcome with
  | error failure => simp [Gives, bind_of_error ended, ended]
  | ok value => simp [Gives, bind_of_ok ended, ended, and_assoc]

@[simp] theorem gives_map (change : α → β) (work : Work ω σ ε α) (before after : σ) (given : β) :
    Gives (change <$> work) before after given ↔
      ∃ value, Gives work before after value ∧ given = change value := by
  rw [map_eq_pure_bind, gives_bind]
  constructor
  · rintro ⟨middle, value, worked, ended⟩
    obtain ⟨rfl, rfl⟩ := (gives_pure ..).mp ended
    exact ⟨value, worked, rfl⟩
  · rintro ⟨value, worked, rfl⟩
    exact ⟨after, value, worked, (gives_pure ..).mpr ⟨rfl, rfl⟩⟩

@[simp] theorem gives_inPhase (name detail : String) (work : Work Action σ ε α)
    (before after : σ) (given : α) :
    Gives (inPhase name detail work) before after given ↔ Gives work before after given :=
  Iff.rfl

/-- Renaming failures leaves completed work as it is. -/
@[simp] theorem gives_mapFailure (change : ε → δ) (work : Work ω σ ε α) (before after : σ)
    (given : α) :
    Gives (mapFailure change work) before after given ↔ Gives work before after given := by
  rcases ended : work before with ⟨state, known, outcome⟩
  cases outcome <;> simp [Gives, mapFailure, ended, Except.mapError]

@[simp] theorem gives_forEach_nil (work : α → Work ω σ ε β) (before after : σ)
    (given : List β) :
    Gives (forEach work []) before after given ↔ after = before ∧ given = [] :=
  gives_pure [] given before after

/-- Work on a list completes exactly when it does on the first part and then on the others. -/
theorem gives_forEach_cons (work : α → Work ω σ ε β) (part : α) (rest : List α)
    (before after : σ) (given : List β) :
    Gives (forEach work (part :: rest)) before after given ↔
      ∃ middle value values, Gives (work part) before middle value ∧
        Gives (forEach work rest) middle after values ∧ given = value :: values := by
  have unfolded : forEach work (part :: rest) =
      (work part >>= fun value => forEach work rest >>= fun values => pure (value :: values)) := rfl
  rw [unfolded, gives_bind]
  constructor
  · rintro ⟨middle, value, first, others⟩
    obtain ⟨final, values, tail, ended⟩ := (gives_bind ..).mp others
    obtain ⟨rfl, rfl⟩ := (gives_pure ..).mp ended
    exact ⟨middle, value, values, first, tail, rfl⟩
  · rintro ⟨middle, value, values, first, tail, rfl⟩
    exact ⟨middle, value, first, (gives_bind ..).mpr ⟨after, values, tail, by simp⟩⟩

/-- Work on a list without a state completes exactly if it does part by part. -/
theorem gives_forEach_stateless (work : α → Work ω Unit ε β) (parts : List α) (given : List β) :
    Gives (forEach work parts) () () given ↔
      List.Forall₂ (fun part value => Gives (work part) () () value) parts given := by
  induction parts generalizing given with
  | nil => simp
  | cons part rest inductionHypothesis =>
    rw [gives_forEach_cons, List.forall₂_cons_left_iff]
    simp only [inductionHypothesis]
    constructor
    · rintro ⟨_, value, values, first, tail, rfl⟩
      exact ⟨value, values, first, tail, rfl⟩
    · rintro ⟨value, values, first, tail, rfl⟩
      exact ⟨(), value, values, first, tail, rfl⟩

/-- Where a part can be worked on exactly if it is good, and then makes a step, a list can exactly
if all its parts are good, and then makes their steps. -/
theorem completes_forEach (work : α → Work ω σ ε β) (good : α → Prop) (step : σ → α → σ)
    (steps : ∀ part before after,
      (∃ value, Gives (work part) before after value) ↔ good part ∧ after = step before part)
    (parts : List α) (before after : σ) :
    (∃ values, Gives (forEach work parts) before after values) ↔
      (∀ part ∈ parts, good part) ∧ after = parts.foldl step before := by
  induction parts generalizing before with
  | nil => simp
  | cons part rest inductionHypothesis =>
    rw [List.forall_mem_cons, List.foldl_cons, and_assoc]
    constructor
    · rintro ⟨values, worked⟩
      obtain ⟨middle, value, others, first, tail, _⟩ := (gives_forEach_cons ..).mp worked
      obtain ⟨goodPart, rfl⟩ := (steps part before middle).mp ⟨value, first⟩
      exact ⟨goodPart, (inductionHypothesis _).mp ⟨others, tail⟩⟩
    · rintro ⟨goodPart, remaining⟩
      obtain ⟨value, first⟩ := (steps part before _).mpr ⟨goodPart, rfl⟩
      obtain ⟨others, tail⟩ := (inductionHypothesis _).mpr remaining
      exact ⟨value :: others, (gives_forEach_cons ..).mpr ⟨_, value, others, first, tail, rfl⟩⟩

@[simp] theorem fails_pure (value : α) (before : σ) (failure : ε) :
    Fails (pure value : Work ω σ ε α) before failure ↔ False := by
  simp [Fails]

@[simp] theorem fails_modify (change : σ → σ) (before : σ) (failure : ε) :
    Fails (modify change : Work ω σ ε Unit) before failure ↔ False := by
  simp [Fails, modify]

@[simp] theorem fails_state (before : σ) (failure : ε) :
    Fails (state : Work ω σ ε σ) before failure ↔ False := by
  simp [Fails, state]

@[simp] theorem fails_note (noted : Note) (before : σ) (failure : ε) :
    Fails (note noted : Work Action σ ε Unit) before failure ↔ False := by
  simp [Fails, note, tell]

@[simp] theorem fails_ofExcept (result : Except ε α) (before : σ) (failure : ε) :
    Fails (ofExcept result : Work ω σ ε α) before failure ↔ result = .error failure := by
  cases result <;> simp [Fails, ofExcept, done, fail]

/-- A sequence fails where its first part does, or where the rest does after it. -/
theorem fails_bind (first : Work ω σ ε α) (next : α → Work ω σ ε β) (before : σ) (failure : ε) :
    Fails (first >>= next) before failure ↔
      Fails first before failure ∨
        ∃ middle value, Gives first before middle value ∧ Fails (next value) middle failure := by
  rcases ended : first before with ⟨middle, known, outcome⟩
  cases outcome with
  | error failed => simp [Fails, Gives, bind_of_error ended, ended]
  | ok value => simp [Fails, Gives, bind_of_ok ended, ended, and_assoc]

@[simp] theorem fails_map (change : α → β) (work : Work ω σ ε α) (before : σ) (failure : ε) :
    Fails (change <$> work) before failure ↔ Fails work before failure := by
  rw [map_eq_pure_bind, fails_bind]
  simp

/-- Renamed failures are the failures of the work, renamed. -/
theorem fails_mapFailure (change : ε → δ) (work : Work ω σ ε α) (before : σ) (failure : δ) :
    Fails (mapFailure change work) before failure ↔
      ∃ original, Fails work before original ∧ failure = change original := by
  rcases ended : work before with ⟨state, known, outcome⟩
  cases outcome <;> simp [Fails, mapFailure, ended, Except.mapError, eq_comm]

/-- Work on a list fails only if the work on one of its parts does. -/
theorem fails_forEach (work : α → Work ω σ ε β) (parts : List α) (before : σ) (failure : ε)
    (failed : Fails (forEach work parts) before failure) :
    ∃ part ∈ parts, ∃ reached, Fails (work part) reached failure := by
  induction parts generalizing before with
  | nil => exact absurd failed (by simp [Fails, forEach, done])
  | cons part rest inductionHypothesis =>
    rcases (fails_bind ..).mp failed with first | ⟨middle, value, _, others⟩
    · exact ⟨part, List.mem_cons_self, before, first⟩
    · rcases (fails_bind ..).mp others with tail | ⟨_, _, _, ended⟩
      · obtain ⟨found, member, reached, failing⟩ := inductionHypothesis middle tail
        exact ⟨found, List.mem_cons_of_mem part member, reached, failing⟩
      · exact absurd ended (by simp)

/-- Work gives a value or fails. -/
theorem gives_or_fails (work : Work ω σ ε α) (before : σ) :
    (∃ after value, Gives work before after value) ∨ ∃ failure, Fails work before failure := by
  rcases ended : work before with ⟨after, known, outcome⟩
  cases outcome with
  | error failure => exact .inr ⟨failure, by simp [Fails, ended]⟩
  | ok value => exact .inl ⟨after, value, by simp [Gives, ended]⟩

/-- Work that gives a value does not fail. -/
theorem Gives.not_fails {work : Work ω σ ε α} {before after : σ} {value : α}
    (given : Gives work before after value) (failure : ε) : ¬Fails work before failure := by
  intro failed
  rw [Fails, given.2] at failed
  cases failed

/-- Work gives one value, and leaves one state. -/
theorem Gives.unique {work : Work ω σ ε α} {before after later : σ} {value other : α}
    (given : Gives work before after value) (again : Gives work before later other) :
    later = after ∧ other = value :=
  ⟨again.1.symm.trans given.1, Except.ok.inj (again.2.symm.trans given.2)⟩

/-- What a result refuses with. -/
def refusals : Except ε α → List ε
  | .ok _ => []
  | .error failure => [failure]

theorem mem_refusals (result : Except ε α) (failure : ε) :
    failure ∈ refusals result ↔ result = .error failure := by
  cases result <;> simp [refusals, eq_comm]

/-- Whatever the state, the work fails with the first of the failures, and gives a value where there
are none. -/
def FailsFirst (work : Work ω σ ε α) (failures : List ε) : Prop :=
  ∀ before failure, Fails work before failure ↔ failures.head? = some failure

/-- Work in whose way nothing stands gives a value. -/
theorem FailsFirst.gives {work : Work ω σ ε α} (safe : FailsFirst work []) (before : σ) :
    ∃ after value, Gives work before after value := by
  refine (gives_or_fails work before).resolve_right ?_
  rintro ⟨failure, failed⟩
  cases (safe before failure).mp failed

theorem failsFirst_pure (value : α) : FailsFirst (pure value : Work ω σ ε α) [] := by
  simp [FailsFirst]

theorem failsFirst_state : FailsFirst (state : Work ω σ ε σ) [] := by
  simp [FailsFirst]

theorem failsFirst_modify (change : σ → σ) :
    FailsFirst (modify change : Work ω σ ε Unit) [] := by
  simp [FailsFirst]

theorem failsFirst_tell (known : List ω) :
    FailsFirst (tell known : Work ω σ ε Unit) [] := by
  simp [FailsFirst, Fails, tell]

theorem failsFirst_note (noted : Note) :
    FailsFirst (note noted : Work Action σ ε Unit) [] := by
  simp [FailsFirst]

theorem failsFirst_ofExcept (result : Except ε α) :
    FailsFirst (ofExcept result : Work ω σ ε α) (refusals result) := by
  intro before failure
  cases result <;> simp [refusals]

/-- In the way of a sequence stand the failures of its first part, and then those of the rest. -/
theorem failsFirst_bind {first : Work ω σ ε α} {next : α → Work ω σ ε β} {failures later : List ε}
    (failsFirst : FailsFirst first failures)
    (rest : ∀ before middle value, Gives first before middle value →
      FailsFirst (next value) later) :
    FailsFirst (first >>= next) (failures ++ later) := by
  intro before failure
  rw [fails_bind, failsFirst]
  cases failures with
  | cons earliest others =>
    refine or_iff_left ?_
    rintro ⟨_, _, given, _⟩
    exact given.not_fails earliest ((failsFirst ..).mpr rfl)
  | nil =>
    obtain ⟨middle, value, given⟩ := failsFirst.gives before
    rw [List.nil_append, ← rest before middle value given middle failure]
    constructor
    · rintro (none | ⟨reached, found, again, failed⟩)
      · cases none
      · obtain ⟨rfl, rfl⟩ := given.unique again
        exact failed
    · exact fun failed => .inr ⟨middle, value, given, failed⟩

/-- Where nothing stands in the way of the rest, a sequence fails first with what its first part
does. -/
theorem FailsFirst.followed {first : Work ω σ ε α} {next : α → Work ω σ ε β} {failures : List ε}
    (failsFirst : FailsFirst first failures) (safe : ∀ value, FailsFirst (next value) []) :
    FailsFirst (first >>= next) failures := by
  have whole := failsFirst_bind failsFirst fun _ _ value _ => safe value
  rwa [List.append_nil] at whole

theorem failsFirst_inPhase (name detail : String) {work : Work Action σ ε α} {failures : List ε}
    (failsFirst : FailsFirst work failures) : FailsFirst (inPhase name detail work) failures :=
  failsFirst

/-- Renaming failures renames what stands in the way. -/
theorem failsFirst_mapFailure (change : ε → δ) {work : Work ω σ ε α} {failures : List ε}
    (failsFirst : FailsFirst work failures) :
    FailsFirst (mapFailure change work) (failures.map change) := by
  intro before failure
  simp only [fails_mapFailure, failsFirst before, List.head?_map, Option.map_eq_some_iff, eq_comm]

/-- In the way of work on a list stands what does in the way of its parts. -/
theorem failsFirst_forEach {work : α → Work ω σ ε β} {failures : α → List ε} {parts : List α}
    (failsFirst : ∀ part ∈ parts, FailsFirst (work part) (failures part)) :
    FailsFirst (forEach work parts) (parts.flatMap failures) := by
  induction parts with
  | nil => exact failsFirst_pure []
  | cons part rest inductionHypothesis =>
    rw [List.forall_mem_cons] at failsFirst
    exact failsFirst_bind failsFirst.1 fun _ _ value _ =>
      (inductionHypothesis failsFirst.2).followed fun values => failsFirst_pure (value :: values)

/-- The first of the failures of a list is the first one of the first part that has any. -/
theorem head?_failures_iff (failures : α → List ε) (parts : List α) (first : ε) :
    (parts.flatMap failures).head? = some first ↔
      ∃ earlier part later, parts = earlier ++ part :: later ∧
        (failures part).head? = some first ∧ ∀ other ∈ earlier, failures other = [] := by
  simp only [List.head?_flatMap, List.findSome?_eq_some_iff, List.head?_eq_none_iff]

end TypedDefaults.Work
