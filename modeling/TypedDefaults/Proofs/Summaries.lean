import TypedDefaults.CommandLine.Migration
import TypedDefaults.Proofs.Completion
import TypedDefaults.Proofs.FileTrees

/-!
# Commands that show their summary

The summary is the last that a command shows, and the only table. So a command
that shows it has found its paths and inputs, read them all under a valid
configuration, run over them without being ended by a numeral, and written its
trace and its outputs; and one that has done all this shows it.
-/

namespace TypedDefaults

open Files Java

namespace Work

variable {ω σ ε δ α β : Type} {made : ω}

/-- The work never makes something known. -/
def Omits (work : Work ω σ ε α) (made : ω) : Prop := ∀ before, made ∉ (work before).known

theorem omits_pure (value : α) : Omits (pure value : Work ω σ ε α) made := by
  simp [Omits]

theorem omits_state : Omits (state : Work ω σ ε σ) made := by
  simp [Omits, state]

theorem omits_modify (change : σ → σ) : Omits (modify change : Work ω σ ε Unit) made := by
  simp [Omits, modify]

theorem omits_fail (failure : ε) : Omits (fail failure : Work ω σ ε α) made := by
  simp [Omits, fail]

theorem omits_tell {known : List ω} (absent : made ∉ known) :
    Omits (tell known : Work ω σ ε Unit) made :=
  fun _ => absent

theorem omits_ofExcept (result : Except ε α) : Omits (ofExcept result : Work ω σ ε α) made := by
  cases result <;> simp [Omits, ofExcept, done, fail]

theorem omits_mapFailure (change : ε → δ) {work : Work ω σ ε α} (omits : Omits work made) :
    Omits (mapFailure change work) made :=
  omits

/-- The work makes something known and leaves a state. -/
def Reaches (work : Work ω σ ε α) (made : ω) (before after : σ) : Prop :=
  made ∈ (work before).known ∧ (work before).state = after

/-- Behind a part that omits it, a sequence reaches what the rest does once the part has ended. -/
theorem reaches_bind {first : Work ω σ ε α} {next : α → Work ω σ ε β} (omits : Omits first made)
    (before after : σ) :
    Reaches (first >>= next) made before after ↔
      ∃ middle value, first.Gives before middle value ∧ Reaches (next value) made middle after := by
  have silent := omits before
  rcases ended : first before with ⟨middle, told, outcome⟩
  rw [ended] at silent
  cases outcome with
  | error failure => simp [Reaches, bind_of_error ended, Gives, ended, silent]
  | ok value => simp [Reaches, bind_of_ok ended, Gives, ended, silent]

/-- A sequence omits what all of its parts do. -/
theorem Omits.followed {first : Work ω σ ε α} {next : α → Work ω σ ε β} (omits : Omits first made)
    (rest : ∀ value, Omits (next value) made) : Omits (first >>= next) made := by
  intro before known
  obtain ⟨middle, value, _, later, _⟩ := (reaches_bind omits before _).mp ⟨known, rfl⟩
  exact rest value middle later

theorem Omits.not_reaches {work : Work ω σ ε α} (omits : Omits work made) (before after : σ) :
    ¬Reaches work made before after :=
  fun reaches => omits before reaches.1

end Work

namespace CommandLine

variable {request : MigrateRequest} {output : Path} {before after : FileTree} {table : Table}

/-- Saying something shows no more than a message. -/
theorem not_said {shown : Shown} (wordless : ∀ message, shown ≠ .message message) (level : Level)
    (text : String) : (say level text).Omits shown :=
  Work.omits_tell fun listed => wordless _ (List.mem_singleton.mp listed)

/-- A command that is stopped shows no more than a message. -/
theorem not_stopped {shown : Shown} (wordless : ∀ message, shown ≠ .message message)
    (level : Level) (text : String) (code : Nat) : (stop level text code).Omits shown :=
  (not_said wordless level text).followed fun _ => Work.omits_pure code

/-- Loading a configuration shows no more than messages. -/
theorem not_loaded {shown : Shown} (wordless : ∀ message, shown ≠ .message message)
    (tree : FileTree) (start : Path) (settings arguments : Settings) :
    (Configuration.load tree start settings arguments : Task _).Omits shown := by
  refine Work.Omits.followed ?_ fun _ => Work.omits_pure _
  rw [Configuration.fileSettings]
  split
  · exact Work.omits_pure _
  · split
    · exact Work.omits_fail _
    · refine (Work.omits_tell fun listed => ?_).followed fun _ => Work.omits_pure _
      exact wordless _ (List.mem_singleton.mp listed)
    · split
      · exact Work.omits_fail _
      · exact Work.omits_pure _

/-- A message is no table. -/
theorem table_wordless (table : Table) (message : Message) :
    Shown.table table ≠ .message message := by
  intro same
  cases same

/-- No table is shown when the trace is written. -/
theorem table_not_written (path : Path) (trace : Trace) :
    (writeTrace path trace).Omits (.table table) := by
  refine Work.omits_state.followed fun tree => ?_
  split
  · exact not_said (table_wordless _) _ _
  · refine (Work.omits_modify _).followed fun _ => ?_
    split
    · exact not_said (table_wordless _) _ _
    · exact (Work.omits_modify _).followed fun _ => not_said (table_wordless _) _ _

/-- No table is shown for the output of an input. -/
theorem table_not_delivered (input : Input) (result : FileReport) :
    (deliver request input result).Omits (.table table) := by
  rw [deliver]
  split
  · exact Work.omits_tell (by simp)
  · refine Work.omits_state.followed fun tree => ?_
    split
    · exact Work.omits_fail _
    · refine (Work.omits_modify _).followed fun _ => ?_
      split
      · exact not_said (table_wordless _) _ _
      · exact Work.omits_pure _

/-- No table is shown for the outputs of inputs. -/
theorem table_not_deliveredAll (deliveries : List (Input × FileReport)) :
    (deliverAll request deliveries).Omits (.table table) := by
  induction deliveries with
  | nil => exact Work.omits_pure _
  | cons delivery rest inductionHypothesis =>
    exact (table_not_delivered _ _).followed fun _ => inductionHypothesis

/-- A command finds its paths and inputs, reads the inputs under a configuration, and runs over
them. -/
structure Runs (request : MigrateRequest) (before : FileTree) (configuration : Configuration)
    (units : List CompilationUnit) (report : RunReport) : Prop where
  present : ∀ path ∈ request.paths, before.isPresent path = true
  loaded : (Configuration.load before (searchStart before request.paths)
    (KeyValue.settings request.settings) (arguments request) : Task _).Gives before before
      (.valid configuration)
  found : inputs before request.paths ≠ []
  read : readInputs before (inputs before request.paths) = .ok units
  returned : (run configuration units ()).outcome = .ok report

/-- Loading a configuration leaves the files. -/
theorem gives_load {tree : FileTree} {start : Path} {settings arguments : Settings}
    {loaded : Checked Configuration}
    (gives : (Configuration.load tree start settings arguments : Task _).Gives before after
      loaded) :
    after = before := by
  rw [Configuration.load, Work.gives_bind] at gives
  obtain ⟨middle, stored, read, rest⟩ := gives
  obtain ⟨rfl, _⟩ := (Work.gives_pure ..).mp rest
  rw [Configuration.fileSettings] at read
  split at read
  · exact ((Work.gives_pure ..).mp read).1
  · split at read
    · cases read.2
    · obtain ⟨told, _, warned, rest⟩ := (Work.gives_bind ..).mp read
      rw [((Work.gives_pure ..).mp rest).1, (Work.gives_tell ..).mp warned]
    · split at read
      · cases read.2
      · exact ((Work.gives_pure ..).mp read).1

/-- Writing the trace writes at most the file of the trace. -/
theorem gives_writeTrace {path : Path} {trace : Trace}
    (gives : (writeTrace path trace).Gives before after ()) :
    FileTree.Becomes before after [before.resolve path] := by
  have said : ∀ (tree later : FileTree) level text, (say level text).Gives tree later () →
      later = tree := fun _ _ _ _ => (Work.gives_tell ..).mp
  rw [writeTrace, Work.gives_bind] at gives
  obtain ⟨_, tree, reached, gives⟩ := gives
  obtain ⟨rfl, rfl⟩ := (Work.gives_state ..).mp reached
  split at gives
  · obtain rfl := said _ _ _ _ gives
    exact (FileTree.Becomes.refl _).mono (by simp)
  · rename_i around made
    have becomes := FileTree.becomes_of_ensureWithin made
    obtain ⟨_, _, reached, gives⟩ := (Work.gives_bind ..).mp gives
    obtain rfl := (Work.gives_modify ..).mp reached
    split at gives
    · obtain rfl := said _ _ _ _ gives
      exact becomes.mono (by simp)
    · rename_i written wrote
      obtain ⟨_, _, reached, gives⟩ := (Work.gives_bind ..).mp gives
      obtain rfl := (Work.gives_modify ..).mp reached
      obtain rfl := said _ _ _ _ gives
      have file := (FileTree.write_exact wrote).1
      rw [becomes.resolve] at file
      exact becomes.trans file

/-- Writes the trace of a run if the command asks for one. -/
def traced (request : MigrateRequest) (actions : List Action) : Task Unit :=
  match request.trace with
  | some path => writeTrace path (Trace.empty.performAll actions)
  | none => pure ()

/-- No table is shown for the trace of a run. -/
theorem table_not_traced (request : MigrateRequest) (actions : List Action) :
    (traced request actions).Omits (.table table) := by
  rw [traced]
  split
  · exact table_not_written _ _
  · exact Work.omits_pure ()

/-- Writing the trace of a run that asks for one writes at most the file of the trace. -/
theorem gives_traced {actions : List Action}
    (gives : (traced request actions).Gives before after ()) :
    FileTree.Becomes before after (request.trace.map before.resolve).toList := by
  rw [traced] at gives
  cases trace : request.trace with
  | none =>
    rw [trace] at gives
    rw [((Work.gives_pure ..).mp gives).1]
    exact FileTree.Becomes.refl before
  | some path =>
    rw [trace] at gives
    exact gives_writeTrace gives

/-- The steps of a run: a message, what the run makes known, the trace, the outputs and the
summary. -/
theorem process_steps (request : MigrateRequest) (configuration : Configuration)
    (found : List Input) (units : List CompilationUnit) :
    process request configuration found units = (do
      say .info ("Migrating " ++ toString units.length ++ " files...")
      Work.tell ((messagesOf (run configuration units ()).known).map .message)
      let result ← (Work.ofExcept (run configuration units ()).outcome).mapFailure .oversized
      traced request (run configuration units ()).known
      deliverAll request (found.zip result.files)
      Work.tell [.table (summaryTable result), .message (verdict result)]
      pure (if result.success then 0 else 1)) := by
  rw [process, traced]
  cases request.trace <;> rfl

/-- A run is summed up exactly if it returns, and the trace and the outputs are written. -/
theorem reaches_process {configuration : Configuration} {found : List Input}
    {units : List CompilationUnit} :
    (process request configuration found units).Reaches (.table table) before after ↔
      ∃ report middle, (run configuration units ()).outcome = .ok report ∧
        table = summaryTable report ∧
        (traced request (run configuration units ()).known).Gives before middle () ∧
        (deliverAll request (found.zip report.files)).Gives middle after () := by
  have summary : ∀ (report : RunReport) (code : Nat) (tree : FileTree),
      (do
        Work.tell [.table (summaryTable report), .message (verdict report)]
        pure code : Task Nat).Reaches (.table table) tree after ↔
          table = summaryTable report ∧ tree = after := by
    intro report code tree
    simp [Work.Reaches, Work.bind_apply, Work.andThen, Work.tell]
  rw [process_steps]
  constructor
  · intro reaches
    obtain ⟨_, _, said, ran⟩ := (Work.reaches_bind (not_said (table_wordless _) _ _) ..).mp reaches
    obtain rfl := (Work.gives_tell ..).mp said
    obtain ⟨_, _, told, returned⟩ := (Work.reaches_bind (Work.omits_tell (by simp)) ..).mp ran
    obtain rfl := (Work.gives_tell ..).mp told
    obtain ⟨_, report, result, wrote⟩ :=
      (Work.reaches_bind (Work.omits_mapFailure _ (Work.omits_ofExcept _)) ..).mp returned
    obtain ⟨rfl, ended⟩ := (Work.gives_ofExcept ..).mp ((Work.gives_mapFailure ..).mp result)
    obtain ⟨middle, _, trace, delivered⟩ :=
      (Work.reaches_bind (table_not_traced _ _) ..).mp wrote
    obtain ⟨_, _, outputs, shown⟩ :=
      (Work.reaches_bind (table_not_deliveredAll _) ..).mp delivered
    obtain ⟨same, rfl⟩ := (summary ..).mp shown
    exact ⟨report, middle, ended, same, trace, outputs⟩
  · rintro ⟨report, middle, ended, rfl, trace, outputs⟩
    refine (Work.reaches_bind (not_said (table_wordless _) _ _) ..).mpr
      ⟨before, (), (Work.gives_tell ..).mpr rfl, ?_⟩
    refine (Work.reaches_bind (Work.omits_tell (by simp)) ..).mpr
      ⟨before, (), (Work.gives_tell ..).mpr rfl, ?_⟩
    refine (Work.reaches_bind (Work.omits_mapFailure _ (Work.omits_ofExcept _)) ..).mpr
      ⟨before, report, (Work.gives_mapFailure ..).mpr ((Work.gives_ofExcept ..).mpr ⟨rfl, ended⟩),
        ?_⟩
    refine (Work.reaches_bind (table_not_traced _ _) ..).mpr ⟨middle, (), trace, ?_⟩
    refine (Work.reaches_bind (table_not_deliveredAll _) ..).mpr ⟨after, (), outputs, ?_⟩
    exact (summary ..).mpr ⟨rfl, rfl⟩

/-- Reading and running is summed up exactly if there are inputs, all are read, and the run over
them is summed up. -/
theorem reaches_readAndProcess {configuration : Configuration} :
    (readAndProcess request configuration).Reaches (.table table) before after ↔
      inputs before request.paths ≠ [] ∧
        ∃ units, readInputs before (inputs before request.paths) = .ok units ∧
          (process request configuration (inputs before request.paths) units).Reaches
            (.table table) before after := by
  rw [readAndProcess, Work.reaches_bind Work.omits_state]
  constructor
  · rintro ⟨_, tree, found, reaches⟩
    obtain ⟨rfl, rfl⟩ := (Work.gives_state ..).mp found
    dsimp only at reaches
    split at reaches
    · exact absurd reaches ((not_stopped (table_wordless _) _ _ _).not_reaches _ _)
    · rename_i some
      split at reaches
      · exact absurd reaches ((not_stopped (table_wordless _) _ _ _).not_reaches _ _)
      · rename_i units read
        exact ⟨by simpa using some, units, read, reaches⟩
  · rintro ⟨some, units, read, reaches⟩
    refine ⟨before, before, (Work.gives_state ..).mpr ⟨rfl, rfl⟩, ?_⟩
    rw [if_neg (by simpa using some), read]
    exact reaches

/-- A command shows its summary exactly if it runs over its inputs, and the trace and the outputs
are written. -/
theorem reaches_migrate :
    (migrate request).Reaches (.table table) before after ↔
      ∃ configuration units report middle, Runs request before configuration units report ∧
        table = summaryTable report ∧
        (traced request (run configuration units ()).known).Gives before middle () ∧
        (deliverAll request ((inputs before request.paths).zip report.files)).Gives middle
          after () := by
  rw [migrate]
  constructor
  · intro reaches
    obtain ⟨_, _, warned, looks⟩ := (Work.reaches_bind (Work.omits_tell (by simp)) ..).mp reaches
    obtain rfl := (Work.gives_tell ..).mp warned
    obtain ⟨_, tree, found, checks⟩ := (Work.reaches_bind Work.omits_state ..).mp looks
    obtain ⟨rfl, rfl⟩ := (Work.gives_state ..).mp found
    dsimp only at checks
    split at checks
    · exact absurd checks ((not_stopped (table_wordless _) _ _ _).not_reaches _ _)
    · rename_i none
      obtain ⟨_, loaded, gives, reads⟩ :=
        (Work.reaches_bind (not_loaded (table_wordless _) _ _ _ _) ..).mp checks
      obtain rfl := gives_load gives
      split at reads
      · exact absurd reads ((not_stopped (table_wordless _) _ _ _).not_reaches _ _)
      · rename_i configuration
        obtain ⟨some, units, read, processed⟩ := reaches_readAndProcess.mp reads
        obtain ⟨report, middle, returned, shown, written⟩ := reaches_process.mp processed
        exact ⟨configuration, units, report, middle,
          ⟨by simpa using none, gives, some, read, returned⟩, shown, written⟩
  · rintro ⟨configuration, units, report, middle, runs, shown, written⟩
    refine (Work.reaches_bind (Work.omits_tell (by simp)) ..).mpr
      ⟨before, (), (Work.gives_tell ..).mpr rfl, ?_⟩
    refine (Work.reaches_bind Work.omits_state ..).mpr
      ⟨before, before, (Work.gives_state ..).mpr ⟨rfl, rfl⟩, ?_⟩
    have none := runs.present
    rw [if_neg (by simpa using none)]
    refine (Work.reaches_bind (not_loaded (table_wordless _) _ _ _ _) ..).mpr
      ⟨before, .valid configuration, runs.loaded, ?_⟩
    exact reaches_readAndProcess.mpr ⟨runs.found, units, runs.read,
      reaches_process.mpr ⟨report, middle, runs.returned, shown, written⟩⟩

end CommandLine

end TypedDefaults
