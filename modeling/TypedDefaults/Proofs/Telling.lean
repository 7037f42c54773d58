import TypedDefaults.Proofs.Visits

/-!
# What work tells

Of all that a piece of work makes known, a question picks some. Where the work
ends, its answers to the question can often be listed in advance: those of a
sequence are those of its parts, one after the other. The trace of a run is a
record of its notes, so a question about events is one about what the run makes
known.
-/

namespace TypedDefaults

namespace Work

variable {ω σ ε δ κ α β : Type} {read : ω → Option κ}

/-- Whenever the work ends, what is read of what it made known is the list. -/
def Tells (read : ω → Option κ) (work : Work ω σ ε α) (told : List κ) : Prop :=
  ∀ before after value, Gives work before after value →
    (work before).known.filterMap read = told

theorem tells_pure (value : α) : Tells read (pure value : Work ω σ ε α) [] :=
  fun _ _ _ _ => rfl

theorem tells_state : Tells read (state : Work ω σ ε σ) [] :=
  fun _ _ _ _ => rfl

theorem tells_modify (change : σ → σ) : Tells read (modify change : Work ω σ ε Unit) [] :=
  fun _ _ _ _ => rfl

theorem tells_ofExcept (result : Except ε α) :
    Tells read (ofExcept result : Work ω σ ε α) [] := by
  intro before after value _
  cases result <;> rfl

theorem tells_tell (known : List ω) :
    Tells read (tell known : Work ω σ ε Unit) (known.filterMap read) :=
  fun _ _ _ _ => rfl

theorem tells_note {read : Action → Option κ} (noted : Note) :
    Tells read (note noted : Work Action σ ε Unit) ([Action.note noted].filterMap read) :=
  fun _ _ _ _ => rfl

/-- What a sequence makes known is what its first part does, and then what the rest does. -/
theorem known_bind {first : Work ω σ ε α} {next : α → Work ω σ ε β} {before middle : σ}
    {value : α} (gives : Gives first before middle value) :
    ((first >>= next) before).known = (first before).known ++ (next value middle).known := by
  rcases ended : first before with ⟨reached, known, outcome⟩
  rw [Gives, ended] at gives
  obtain ⟨rfl, rfl⟩ := gives
  rw [bind_of_ok ended]

/-- A sequence tells what its first part does, and then what the rest does. -/
theorem tells_bind {first : Work ω σ ε α} {next : α → Work ω σ ε β} {told later : List κ}
    (tells : Tells read first told)
    (rest : ∀ before middle value, Gives first before middle value →
      Tells read (next value) later) :
    Tells read (first >>= next) (told ++ later) := by
  intro before after given gives
  obtain ⟨middle, value, began, ended⟩ := (gives_bind ..).mp gives
  have front := tells before middle value began
  have back := rest before middle value began middle after given ended
  rw [known_bind began, List.filterMap_append, front, back]

/-- Where the rest tells nothing, a sequence tells what its first part does. -/
theorem Tells.followed {first : Work ω σ ε α} {next : α → Work ω σ ε β} {told : List κ}
    (tells : Tells read first told) (quiet : ∀ value, Tells read (next value) []) :
    Tells read (first >>= next) told := by
  have whole := tells_bind tells fun _ _ value _ => quiet value
  rwa [List.append_nil] at whole

/-- Work on a list tells what the work on its parts does. -/
theorem tells_forEach {work : α → Work ω σ ε β} {told : α → List κ} {parts : List α}
    (tells : ∀ part ∈ parts, Tells read (work part) (told part)) :
    Tells read (forEach work parts) (parts.flatMap told) := by
  induction parts with
  | nil => exact tells_pure []
  | cons part rest inductionHypothesis =>
    rw [List.forall_mem_cons] at tells
    exact tells_bind tells.1 fun _ _ value _ =>
      (inductionHypothesis tells.2).followed fun values => tells_pure (value :: values)

theorem tells_mapFailure (change : ε → δ) {work : Work ω σ ε α} {told : List κ}
    (tells : Tells read work told) : Tells read (mapFailure change work) told :=
  fun before after value gives =>
    tells before after value ((gives_mapFailure change work before after value).mp gives)

/-- A phase tells of its opening and its closing beside what happens inside. -/
theorem tells_inPhase {read : Action → Option κ} (name detail : String) {work : Work Action σ ε α}
    {told : List κ} (tells : Tells read work told) :
    Tells read (inPhase name detail work)
      ([Action.openPhase name detail].filterMap read ++ told ++
        [Action.closePhase].filterMap read) := by
  intro before after value gives
  rw [← tells before after value gives, ← List.filterMap_append, ← List.filterMap_append]
  rfl

/-- Forgotten work tells what the work does. -/
theorem tells_forget_iff (work : Work ω σ ε α) (told : List κ) :
    Tells read (forget work) told ↔ Tells read work told := by
  simp only [Tells, gives_forget, known_forget, forall_exists_index]
  exact ⟨fun tells before after value gives => tells before after () value gives,
    fun tells before after _ value gives => tells before after value gives⟩

end Work

/-- An action as an event of the trace, other than of a phase. -/
def Action.noted? : Action → Option Event
  | .note noted => some (.note noted)
  | _ => none

/-- An event other than of a phase. -/
def Event.noted? : Event → Option Event
  | .note noted => some (.note noted)
  | _ => none

/-- The events of the trace are the notes among the actions that it has recorded, in their order,
phases apart. -/
theorem Trace.noted_performAll (trace : Trace) (actions : List Action) :
    (trace.performAll actions).records.filterMap (fun record => record.event.noted?) =
      trace.records.filterMap (fun record => record.event.noted?) ++
        actions.filterMap Action.noted? := by
  induction actions generalizing trace with
  | nil => simp [performAll]
  | cons action rest inductionHypothesis =>
    have first : (trace.perform .main action).1.records.filterMap
          (fun record => record.event.noted?) =
        trace.records.filterMap (fun record => record.event.noted?) ++
          [action].filterMap Action.noted? := by
      cases action with
      | openPhase name detail =>
        simp [perform, withPhases, append, Event.noted?, Action.noted?]
      | closePhase =>
        rw [perform]
        cases trace.phasesOf .main <;>
          simp [withPhases, append, Event.noted?, Action.noted?]
      | note noted => simp [perform, append, Event.noted?, Action.noted?]
      | send message => simp [perform, Action.noted?]
    rw [performAll, List.foldl_cons]
    change ((trace.perform .main action).1.performAll rest).records.filterMap _ = _
    rw [inductionHypothesis, first, List.append_assoc, ← List.filterMap_append,
      List.singleton_append]

end TypedDefaults
