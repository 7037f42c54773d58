import TypedDefaults.Proofs.Migration
import TypedDefaults.Proofs.Summaries
import TypedDefaults.Proofs.Telling

/-!
# Exit codes

A command is obstructed by a path that does not exist, by a configuration that
is not valid, and by an input that is no readable document of a unit, wherever
it stands among the inputs. An obstructed command has the exit code 1, shows
nothing but messages, and leaves the files as they were. A command that returns
and is not obstructed has the exit code 0, as no run that returns has failed for
any of its files.
-/

namespace TypedDefaults.CommandLine

open Files Java

variable {request : MigrateRequest} {before after : FileTree} {code : Nat}

/-- The input is a file that can be read, and its text is the document of a unit. -/
def Input.Loads (tree : FileTree) (input : Input) : Prop :=
  ∃ text unit, tree.read input.source = .ok text ∧ Document.parse text = .valid unit

/-- An input is read exactly if it loads. -/
theorem readInput_ok_iff (tree : FileTree) (input : Input) :
    (∃ unit, readInput tree input = .ok unit) ↔ input.Loads tree := by
  rw [readInput, Input.Loads]
  cases found : tree.read input.source with
  | error error => simp
  | ok text =>
    cases parsed : Document.parse text with
    | invalid issues => simp [parsed]
    | valid unit => simp [parsed]

/-- Inputs are read exactly if all of them load. -/
theorem readInputs_ok_iff (tree : FileTree) (found : List Input) :
    (∃ units, readInputs tree found = .ok units) ↔ ∀ input ∈ found, input.Loads tree := by
  induction found with
  | nil => simp [readInputs]
  | cons input rest inductionHypothesis =>
    rw [List.forall_mem_cons, ← inductionHypothesis, ← readInput_ok_iff, readInputs]
    cases first : readInput tree input with
    | error message => simp
    | ok unit =>
      cases others : readInputs tree rest with
      | error message => simp [Except.map]
      | ok units => simp [Except.map]

/-- Something stands in the way of a command: a path that does not exist, a configuration that is
not valid, or an input that does not load. -/
inductive Obstructed (request : MigrateRequest) (before : FileTree) : Prop where
  | missing (path : Path) (asked : path ∈ request.paths)
      (absent : before.isPresent path = false) : Obstructed request before
  | misconfigured (issues : List Issue)
      (refused : (Configuration.load before (searchStart before request.paths)
        (KeyValue.settings request.settings) (arguments request) : Task _).Gives before before
          (.invalid issues)) : Obstructed request before
  | unreadable (input : Input) (listed : input ∈ inputs before request.paths)
      (unread : ¬input.Loads before) : Obstructed request before

/-- A task ends with a code, leaves the files as they are, and shows nothing but messages. -/
structure Stops (task : Task Nat) (tree : FileTree) (code : Nat) : Prop where
  ended : task.Gives tree tree code
  worded : ∀ shown ∈ (task tree).known, ∃ message, shown = .message message

/-- To stop with a message leaves the files as they are, and shows nothing but the message. -/
theorem stops_stop (level : Level) (text : String) (tree : FileTree) :
    Stops (stop level text code) tree code := by
  refine ⟨⟨rfl, rfl⟩, ?_⟩
  intro shown listed
  exact ⟨⟨level, text⟩, List.mem_singleton.mp listed⟩

/-- A task stops if it stops behind a part that leaves the files and shows nothing but messages. -/
theorem Stops.behind {α : Type} {first : Task α} {next : α → Task Nat} {tree : FileTree}
    {value : α} (gives : first.Gives tree tree value)
    (worded : ∀ shown ∈ (first tree).known, ∃ message, shown = .message message)
    (stops : Stops (next value) tree code) : Stops (first >>= next) tree code := by
  refine ⟨(Work.gives_bind ..).mpr ⟨tree, value, gives, stops.ended⟩, ?_⟩
  intro shown listed
  rw [Work.known_bind gives, List.mem_append] at listed
  rcases listed with front | back
  · exact worded shown front
  · exact stops.worded shown back

/-- What follows the loading of a configuration. -/
def configured (request : MigrateRequest) : Checked Configuration → Task Nat
  | .invalid issues =>
    stop .error ("Invalid configuration: " ++ problemCount issues "MigrationConfig") 1
  | .valid configuration => readAndProcess request configuration

/-- The steps of a command: warnings, a look for its paths, the configuration, and the rest. -/
theorem migrate_steps (request : MigrateRequest) :
    migrate request = (do
      Work.tell ((KeyValue.warnings request.settings).map .message)
      let tree ← Work.state
      let missing := request.paths.filter fun path => !tree.isPresent path
      if !missing.isEmpty then
        stop .error ("Input not found: " ++ Text.join ", " (missing.map Path.text)) 1
      else
        let read ← Configuration.load tree (searchStart tree request.paths)
          (KeyValue.settings request.settings) (arguments request)
        configured request read) := rfl

/-- Work that omits all but messages shows nothing else. -/
theorem worded_of_omits {α : Type} {task : Task α}
    (omits : ∀ shown, (∀ message, shown ≠ Shown.message message) → task.Omits shown)
    (tree : FileTree) : ∀ shown ∈ (task tree).known, ∃ message, shown = .message message := by
  intro shown listed
  by_contra none
  exact omits shown (fun message same => none ⟨message, same⟩) tree listed

/-- Warnings are messages. -/
theorem worded_warnings (words : List String) (tree : FileTree) :
    ∀ shown ∈ ((Work.tell ((KeyValue.warnings words).map .message) : Task Unit) tree).known,
      ∃ message, shown = .message message := by
  intro shown listed
  obtain ⟨message, _, rfl⟩ := List.mem_map.mp listed
  exact ⟨message, rfl⟩

/-- A command stops at a path that does not exist. -/
theorem stops_missing {path : Path} (asked : path ∈ request.paths)
    (absent : before.isPresent path = false) : Stops (migrate request) before 1 := by
  have some : (request.paths.filter fun path => !before.isPresent path) ≠ [] := by
    apply List.ne_nil_of_mem
    exact List.mem_filter.mpr ⟨asked, by rw [absent]; rfl⟩
  rw [migrate_steps]
  refine Stops.behind ((Work.gives_tell _ before before ()).mpr rfl) (worded_warnings _ _) ?_
  refine Stops.behind ((Work.gives_state ..).mpr ⟨rfl, rfl⟩)
    (worded_of_omits (fun _ _ => Work.omits_state) before) ?_
  rw [if_pos (by simpa using some)]
  exact stops_stop _ _ _

/-- Where all paths exist, a command stops if it does so behind its configuration. -/
theorem stops_loaded (present : ∀ path ∈ request.paths, before.isPresent path = true)
    {loaded : Checked Configuration}
    (loads : (Configuration.load before (searchStart before request.paths)
      (KeyValue.settings request.settings) (arguments request) : Task _).Gives before before loaded)
    (stops : Stops (configured request loaded) before code) :
    Stops (migrate request) before code := by
  rw [migrate_steps]
  refine Stops.behind ((Work.gives_tell _ before before ()).mpr rfl) (worded_warnings _ _) ?_
  refine Stops.behind ((Work.gives_state ..).mpr ⟨rfl, rfl⟩)
    (worded_of_omits (fun _ _ => Work.omits_state) before) ?_
  rw [if_neg (by simpa using present)]
  exact stops.behind loads (worded_of_omits (fun _ wordless => not_loaded wordless _ _ _ _) before)

/-- A command that ends and whose paths exist has loaded its configuration, and ended behind it. -/
theorem gives_loaded (present : ∀ path ∈ request.paths, before.isPresent path = true)
    (gives : (migrate request).Gives before after code) :
    ∃ loaded, (Configuration.load before (searchStart before request.paths)
        (KeyValue.settings request.settings) (arguments request) : Task _).Gives before before
          loaded ∧
      (configured request loaded).Gives before after code := by
  rw [migrate_steps] at gives
  obtain ⟨_, _, warned, looks⟩ := (Work.gives_bind ..).mp gives
  obtain rfl := (Work.gives_tell ..).mp warned
  obtain ⟨_, tree, found, checks⟩ := (Work.gives_bind ..).mp looks
  obtain ⟨rfl, rfl⟩ := (Work.gives_state ..).mp found
  rw [if_neg (by simpa using present)] at checks
  obtain ⟨_, loaded, loads, rest⟩ := (Work.gives_bind ..).mp checks
  obtain rfl := gives_load loads
  exact ⟨loaded, loads, rest⟩

/-- Reading stops at an input that does not load. -/
theorem stops_unreadable {input : Input} (listed : input ∈ inputs before request.paths)
    (unread : ¬input.Loads before) (configuration : Configuration) :
    Stops (readAndProcess request configuration) before 1 := by
  rw [readAndProcess]
  refine Stops.behind ((Work.gives_state ..).mpr ⟨rfl, rfl⟩)
    (worded_of_omits (fun _ _ => Work.omits_state) before) ?_
  rw [if_neg (by simpa using List.ne_nil_of_mem listed)]
  cases read : readInputs before (inputs before request.paths) with
  | error message => exact stops_stop _ _ _
  | ok units =>
    have loads := (readInputs_ok_iff before _).mp ⟨units, read⟩
    exact absurd (loads input listed) unread

/-- Migrated files have not failed. -/
theorem all_success {configuration : Configuration} {store : Store} {units : List CompilationUnit}
    {files : List FileReport}
    (migrates : List.Forall₂ (Apply.Migrates configuration store) units files) :
    files.all FileReport.success = true := by
  induction migrates with
  | nil => rfl
  | cons migrated _ inductionHypothesis =>
    rw [List.all_cons, inductionHypothesis, FileReport.success, migrated.unfailed]
    rfl

/-- Processing that ends has the code 0, as no file fails. -/
theorem gives_process {configuration : Configuration} {found : List Input}
    {units : List CompilationUnit}
    (gives : (process request configuration found units).Gives before after code) : code = 0 := by
  rw [process_steps] at gives
  obtain ⟨_, _, _, ran⟩ := (Work.gives_bind ..).mp gives
  obtain ⟨_, _, _, returned⟩ := (Work.gives_bind ..).mp ran
  obtain ⟨_, report, result, wrote⟩ := (Work.gives_bind ..).mp returned
  obtain ⟨_, ended⟩ := (Work.gives_ofExcept ..).mp ((Work.gives_mapFailure ..).mp result)
  obtain ⟨_, _, _, delivered⟩ := (Work.gives_bind ..).mp wrote
  obtain ⟨_, _, _, summed⟩ := (Work.gives_bind ..).mp delivered
  obtain ⟨_, _, _, closed⟩ := (Work.gives_bind ..).mp summed
  obtain ⟨_, coded⟩ := (Work.gives_pure ..).mp closed
  rw [coded, RunReport.success, all_success (run_migrates configuration units report ended)]
  rfl

/-- Where all inputs load, reading and processing that ends has the code 0. -/
theorem gives_readAndProcess {configuration : Configuration}
    (loads : ∀ input ∈ inputs before request.paths, input.Loads before)
    (gives : (readAndProcess request configuration).Gives before after code) : code = 0 := by
  rw [readAndProcess] at gives
  obtain ⟨_, tree, found, reads⟩ := (Work.gives_bind ..).mp gives
  obtain ⟨rfl, rfl⟩ := (Work.gives_state ..).mp found
  dsimp only at reads
  split at reads
  · obtain ⟨_, _, _, ended⟩ := (Work.gives_bind ..).mp reads
    exact ((Work.gives_pure ..).mp ended).2
  · obtain ⟨units, read⟩ := (readInputs_ok_iff tree _).mpr loads
    rw [read] at reads
    exact gives_process reads

/-- An obstructed command that returns stops with the code 1. -/
theorem stops_obstructed (obstructed : Obstructed request before)
    (gives : (migrate request).Gives before after code) : Stops (migrate request) before 1 := by
  by_cases present : ∀ path ∈ request.paths, before.isPresent path = true
  · obtain ⟨loaded, loads, _⟩ := gives_loaded present gives
    refine stops_loaded present loads ?_
    cases loaded with
    | invalid issues => exact stops_stop _ _ _
    | valid configuration =>
      cases obstructed with
      | missing path asked absent =>
        exact absurd ((present path asked).symm.trans absent) Bool.noConfusion
      | misconfigured issues refused =>
        have same := refused.2.symm.trans loads.2
        cases same
      | unreadable input listed unread => exact stops_unreadable listed unread configuration
  · push Not at present
    obtain ⟨path, asked, absent⟩ := present
    exact stops_missing asked (Bool.eq_false_iff.mpr absent)

/-- A command that is not obstructed and returns has the code 0. -/
theorem code_of_unobstructed (free : ¬Obstructed request before)
    (gives : (migrate request).Gives before after code) : code = 0 := by
  have present : ∀ path ∈ request.paths, before.isPresent path = true := by
    intro path asked
    by_contra absent
    exact free (.missing path asked (Bool.eq_false_iff.mpr absent))
  obtain ⟨loaded, loads, rest⟩ := gives_loaded present gives
  cases loaded with
  | invalid issues => exact absurd (.misconfigured issues loads) free
  | valid configuration =>
    refine gives_readAndProcess (fun input listed => ?_) rest
    by_contra unread
    exact free (.unreadable input listed unread)

/-- A command that returns has the exit code 1 if it is obstructed, and 0 otherwise. If it is
obstructed, all files and directories are as they were, and it has shown nothing but messages: it
has printed no document. -/
theorem exit_code_exact (request : MigrateRequest) (before : FileTree) (code : Nat)
    (returned : (migrate request before).outcome = .ok code) :
    (code = 1 ↔ Obstructed request before) ∧ (code = 0 ↔ ¬Obstructed request before) ∧
      (Obstructed request before →
        (migrate request before).state = before ∧
          (∀ text, .printed text ∉ (migrate request before).known) ∧
          ∀ shown ∈ (migrate request before).known, ∃ message, shown = .message message) := by
  have gives : (migrate request).Gives before (migrate request before).state code := ⟨rfl, returned⟩
  by_cases obstructed : Obstructed request before
  · have stops := stops_obstructed obstructed gives
    obtain rfl : code = 1 := Except.ok.inj (returned.symm.trans stops.ended.2)
    refine ⟨⟨fun _ => obstructed, fun _ => rfl⟩, ⟨?_, fun free => absurd obstructed free⟩,
      fun _ => ⟨stops.ended.1, ?_, stops.worded⟩⟩
    · intro zero
      cases zero
    · intro text listed
      obtain ⟨message, same⟩ := stops.worded _ listed
      cases same
  · obtain rfl := code_of_unobstructed obstructed gives
    refine ⟨⟨?_, fun blocked => absurd blocked obstructed⟩,
      ⟨fun _ => obstructed, fun _ => rfl⟩, fun blocked => absurd blocked obstructed⟩
    intro one
    cases one

/-- A directory with three documents, of which the second breaks off. -/
def brokenOff : FileTree where
  contents :=
    [(["a"], .directory), (["a", "X.json"], .file "\x7b\"source_path\": \"a/X\"\x7d"),
     (["a", "Y.json"], .file "\x7b\"source_path\": "),
     (["a", "Z.json"], .file "\x7b\"source_path\": \"a/Z\"\x7d")]
  here := []

/-- The command that migrates paths to an output directory, and writes a trace. -/
def migrateTraced (paths : List Path) : MigrateRequest where
  paths := paths
  output := some (.relative ["out"])
  render := false
  settings := []
  trace := some (.relative ["trace.json"])
  workers := none

/-- A document that breaks off obstructs the migration of its directory: nothing is written, and the
documents beside it are not printed. Each of these is migrated by itself. -/
theorem broken_document_obstructs :
    let whole := migrateTraced [.relative ["a"]]
    let single := migrateTraced [.relative ["a", "X.json"], .relative ["a", "Z.json"]]
    (migrate whole brokenOff).outcome = .ok 1 ∧ Obstructed whole brokenOff ∧
      (migrate whole brokenOff).state = brokenOff ∧
      (∀ text, .printed text ∉ (migrate whole brokenOff).known) ∧
      (migrate single brokenOff).outcome = .ok 0 ∧ ¬Obstructed single brokenOff := by
  intro whole single
  have stopped : (migrate whole brokenOff).outcome = .ok 1 := by decide +kernel
  have finished : (migrate single brokenOff).outcome = .ok 0 := by decide +kernel
  obtain ⟨one, _, kept⟩ := exit_code_exact whole brokenOff 1 stopped
  obtain ⟨same, silent, _⟩ := kept (one.mp rfl)
  have free := (exit_code_exact single brokenOff 0 finished).2.1.mp rfl
  exact ⟨stopped, one.mp rfl, same, silent, finished, free⟩

end TypedDefaults.CommandLine
