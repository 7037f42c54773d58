import TypedDefaults.Trace

/-!
# Work that makes known what it does

A piece of work changes a state, makes things known, and ends with a value or a
failure. A failure ends the work around it too, but what was made known until
then stays known, and the state stays as it was left. The phases of a run make
actions known, the command line what it shows to the user.
-/

namespace TypedDefaults

/-- What a piece of work leaves behind. -/
structure Done (ω σ ε α : Type) where
  state : σ
  known : List ω
  outcome : Except ε α

/-- Work on a state of type `σ` that makes things of type `ω` known and gives an `α` or fails with
an `ε`. -/
def Work (ω σ ε α : Type) : Type := σ → Done ω σ ε α

namespace Work

variable {ω σ ε δ α β : Type}

/-- Nothing but a value. -/
def done (value : α) : Work ω σ ε α := fun state => ⟨state, [], .ok value⟩

/-- Nothing but a failure. -/
def fail (failure : ε) : Work ω σ ε α := fun state => ⟨state, [], .error failure⟩

/-- Work, and further work with its value unless it failed. -/
def andThen (first : Work ω σ ε α) (next : α → Work ω σ ε β) : Work ω σ ε β := fun state =>
  match first state with
  | ⟨state, known, .error failure⟩ => ⟨state, known, .error failure⟩
  | ⟨state, known, .ok value⟩ =>
    let rest := next value state
    ⟨rest.state, known ++ rest.known, rest.outcome⟩

instance : Monad (Work ω σ ε) where
  pure := done
  bind := andThen

/-- A value or failure as work. -/
def ofExcept : Except ε α → Work ω σ ε α
  | .ok value => done value
  | .error failure => fail failure

/-- The state as it is. -/
def state : Work ω σ ε σ := fun state => ⟨state, [], .ok state⟩

/-- Another state. -/
def modify (change : σ → σ) : Work ω σ ε Unit := fun state => ⟨change state, [], .ok ()⟩

/-- Makes things known. -/
def tell (known : List ω) : Work ω σ ε Unit := fun state => ⟨state, known, .ok ()⟩

/-- Notes an event. -/
def note (note : Note) : Work Action σ ε Unit := tell [.note note]

/-- Work inside a phase. The phase is closed also where the work fails. -/
def inPhase (name detail : String) (work : Work Action σ ε α) : Work Action σ ε α := fun state =>
  let inner := work state
  ⟨inner.state, .openPhase name detail :: inner.known ++ [.closePhase], inner.outcome⟩

/-- Work with failures of another type. -/
def mapFailure (change : ε → δ) (work : Work ω σ ε α) : Work ω σ δ α := fun state =>
  let inner := work state
  ⟨inner.state, inner.known, inner.outcome.mapError change⟩

/-- The same work on every part of a list, from first to last. -/
def forEach (work : α → Work ω σ ε β) : List α → Work ω σ ε (List β)
  | [] => done []
  | part :: rest => do
    let value ← work part
    let values ← forEach work rest
    pure (value :: values)

@[simp] theorem pure_apply (value : α) (state : σ) :
    (pure value : Work ω σ ε α) state = ⟨state, [], .ok value⟩ := rfl

theorem bind_apply (first : Work ω σ ε α) (next : α → Work ω σ ε β) (state : σ) :
    (first >>= next) state = andThen first next state := rfl

/-- Work goes on with the value of work that did not fail. -/
theorem bind_of_ok {first : Work ω σ ε α} {next : α → Work ω σ ε β} {state after : σ}
    {known : List ω} {value : α} (ended : first state = ⟨after, known, .ok value⟩) :
    (first >>= next) state =
      ⟨(next value after).state, known ++ (next value after).known,
        (next value after).outcome⟩ := by
  rw [bind_apply, andThen, ended]

/-- Work ends where it fails. -/
theorem bind_of_error {first : Work ω σ ε α} {next : α → Work ω σ ε β} {state after : σ}
    {known : List ω} {failure : ε} (ended : first state = ⟨after, known, .error failure⟩) :
    (first >>= next) state = ⟨after, known, .error failure⟩ := by
  rw [bind_apply, andThen, ended]

end Work

end TypedDefaults
