import TypedDefaults.Proofs.Migration
import TypedDefaults.Proofs.Summaries

/-!
# What a command delivers

A command that shows its summary has written an output for each of its inputs,
in order. An output replaces what an earlier one left at the same location. So
the file at the destination of an input holds what came of the last input whose
destination is there; it holds what came of the input itself where no two inputs
go to one location.
-/

namespace TypedDefaults.CommandLine

open Files Java

variable {request : MigrateRequest} {output : Path} {before after : FileTree} {table : Table}

/-- The location to which the output for an input goes. -/
def goesTo (request : MigrateRequest) (output : Path) (tree : FileTree) (input : Input) :
    Location :=
  tree.resolve (destination output request.render input)

/-- The output for an input is written at its destination, and nothing else is. -/
theorem gives_deliver (asked : request.output = some output) {input : Input} {result : FileReport}
    (gives : (deliver request input result).Gives before after ()) :
    FileTree.Becomes before after [goesTo request output before input] ∧
      after.read (destination output request.render input) =
        .ok (outputText request.render result.unit) := by
  simp only [deliver, asked] at gives
  obtain ⟨_, tree, found, writes⟩ := (Work.gives_bind ..).mp gives
  obtain ⟨rfl, rfl⟩ := (Work.gives_state ..).mp found
  cases wrote : tree.writeWithDirectories (destination output request.render input)
      (outputText request.render result.unit) with
  | error error =>
    simp only [wrote] at writes
    cases writes.2
  | ok written =>
    simp only [wrote] at writes
    obtain ⟨_, _, reached, ends⟩ := (Work.gives_bind ..).mp writes
    have same : after = written := by
      rw [← (Work.gives_modify (fun _ => written) ..).mp reached]
      split at ends
      · exact (Work.gives_tell ..).mp ends
      · exact ((Work.gives_pure ..).mp ends).1
    subst same
    exact FileTree.writeWithDirectories_exact wrote

/-- Of inputs with what came of them, the last whose output goes to where that for an input does. -/
def lastBeside? (place : Input → Location) (input : Input)
    (deliveries : List (Input × FileReport)) : Option (Input × FileReport) :=
  (deliveries.filter fun delivery => place delivery.1 = place input).getLast?

/-- An input in front changes nothing where there is a last one behind it. -/
theorem lastBeside?_cons {place : Input → Location} {input : Input}
    {first last : Input × FileReport} {rest : List (Input × FileReport)}
    (picked : lastBeside? place input rest = some last) :
    lastBeside? place input (first :: rest) = some last := by
  rw [lastBeside?] at picked ⊢
  rw [List.filter_cons]
  split
  · rw [List.getLast?_cons, picked]
    rfl
  · exact picked

/-- An input is the last to go to its place if no later one goes there. -/
theorem lastBeside?_self {place : Input → Location} {first : Input × FileReport}
    {rest : List (Input × FileReport)}
    (alone : ∀ other ∈ rest, place other.1 ≠ place first.1) :
    lastBeside? place first.1 (first :: rest) = some first := by
  have none : rest.filter (fun delivery => place delivery.1 = place first.1) = [] :=
    List.filter_eq_nil_iff.mpr fun other behind => by simpa using alone other behind
  rw [lastBeside?, List.filter_cons_of_pos (by simp), none]
  rfl

/-- Outputs are written at the destinations of their inputs, and nothing else is. At the destination
of an input stands the output for the last input that goes there. -/
theorem gives_deliverAll (asked : request.output = some output)
    {deliveries : List (Input × FileReport)}
    (gives : (deliverAll request deliveries).Gives before after ()) :
    FileTree.Becomes before after
        (deliveries.map fun delivery => goesTo request output before delivery.1) ∧
      ∀ delivery ∈ deliveries, ∃ last,
        lastBeside? (goesTo request output before) delivery.1 deliveries = some last ∧
        after.read (destination output request.render delivery.1) =
          .ok (outputText request.render last.2.unit) := by
  induction deliveries generalizing before with
  | nil =>
    rw [deliverAll] at gives
    rw [((Work.gives_pure ..).mp gives).1]
    exact ⟨.refl before, by simp⟩
  | cons first rest inductionHypothesis =>
    rw [deliverAll, Work.gives_bind] at gives
    obtain ⟨middle, _, delivered, others⟩ := gives
    obtain ⟨becomes, found⟩ := gives_deliver asked delivered
    obtain ⟨later, last⟩ := inductionHypothesis others
    have places : goesTo request output middle = goesTo request output before :=
      funext fun _ => becomes.resolve _
    rw [places] at later
    refine ⟨becomes.trans later, ?_⟩
    rw [places] at last
    intro delivery listed
    rcases List.mem_cons.mp listed with rfl | behind
    · by_cases beside : ∃ other ∈ rest,
          goesTo request output before other.1 = goesTo request output before delivery.1
      · obtain ⟨other, behind, same⟩ := beside
        obtain ⟨final, picked, read⟩ := last other behind
        rw [lastBeside?, same] at picked
        refine ⟨final, lastBeside?_cons picked, later.read_alias found ?_ read⟩
        rw [later.resolve, later.resolve, becomes.resolve, becomes.resolve]
        exact same
      · refine ⟨delivery, lastBeside?_self fun other behind same => beside ⟨other, behind, same⟩,
          later.read found ?_⟩
        rw [becomes.resolve]
        rintro among
        obtain ⟨other, behind, same⟩ := List.mem_map.mp among
        exact beside ⟨other, behind, same⟩
    · obtain ⟨final, picked, read⟩ := last delivery behind
      exact ⟨final, lastBeside?_cons picked, read⟩

/-- A document is read for each input. -/
theorem length_readInputs {tree : FileTree} {found : List Input} {units : List CompilationUnit}
    (read : readInputs tree found = .ok units) : units.length = found.length := by
  induction found generalizing units with
  | nil =>
    obtain rfl := Except.ok.inj read
    rfl
  | cons input rest inductionHypothesis =>
    rw [readInputs] at read
    split at read
    · cases read
    · cases later : readInputs tree rest with
      | error message => simp [later, Except.map] at read
      | ok others =>
        rw [later] at read
        obtain rfl := Except.ok.inj read
        simp [inductionHypothesis later]

/-- A run reports on each input. -/
theorem Runs.length {configuration : Configuration} {units : List CompilationUnit}
    {report : RunReport} (runs : Runs request before configuration units report) :
    report.files.length = (inputs before request.paths).length := by
  rw [← length_readInputs runs.read]
  exact ((run_returns_iff ..).mp runs.returned).2.1.length_eq.symm

/-- Where no two inputs go to one location, each is the last that goes there. -/
theorem lastBeside?_apart {place : Input → Location} {found : List Input}
    {files : List FileReport} (length : files.length = found.length)
    (apart : (found.map place).Nodup) {delivery last : Input × FileReport}
    (listed : delivery ∈ found.zip files)
    (picked : lastBeside? place delivery.1 (found.zip files) = some last) : last = delivery := by
  obtain ⟨among, same⟩ := List.mem_filter.mp (List.mem_of_getLast? picked)
  have distinct : ((found.zip files).map fun pair => place pair.1).Nodup := by
    have inputs : (found.zip files).map Prod.fst = found :=
      List.map_fst_zip (Nat.le_of_eq length.symm)
    rw [← inputs, List.map_map] at apart
    exact apart
  exact List.inj_on_of_nodup_map distinct among listed (of_decide_eq_true same)

/-- The place of the output for an input below the output directory. -/
def outputPlace (render : Bool) (input : Input) : List String :=
  (if render then (Path.relative input.place).withSuffix ".java"
    else Path.relative input.place).parts

/-- Printed source has no double points for its name. -/
theorem plain_outputPlace (render : Bool) {input : Input} (plain : ".." ∉ input.place) :
    ".." ∉ outputPlace render input := by
  cases render with
  | false => exact plain
  | true =>
    have suffixed : ∀ name : String, ".." ≠ name ++ ".java" := by
      intro name same
      have ends := congrArg (fun text => text.toList.getLast?) same
      simp at ends
    intro among
    rcases List.mem_append.mp among with before | last
    · exact plain ((List.dropLast_sublist _).subset before)
    · exact suffixed _ (List.mem_singleton.mp last)

/-- An output goes to its place below the location of the output directory. -/
theorem goesTo_plain (request : MigrateRequest) (output : Path) (tree : FileTree) {input : Input}
    (plain : ".." ∉ input.place) :
    goesTo request output tree input =
      tree.resolve output ++ outputPlace request.render input := by
  have relative : destination output request.render input =
      { output with parts := output.parts ++ outputPlace request.render input } := by
    rw [destination, outputPlace]
    cases request.render <;> rfl
  rw [goesTo, relative]
  exact FileTree.resolve_plain tree output (plain_outputPlace request.render plain)

/-- Two outputs go to one location exactly if they have one place below the output directory. -/
theorem goesTo_eq_iff (request : MigrateRequest) (output : Path) (tree : FileTree)
    {first second : Input} (firstPlain : ".." ∉ first.place) (secondPlain : ".." ∉ second.place) :
    goesTo request output tree first = goesTo request output tree second ↔
      outputPlace request.render first = outputPlace request.render second := by
  rw [goesTo_plain request output tree firstPlain, goesTo_plain request output tree secondPlain,
    List.append_cancel_left_eq]

/-- A command with an output directory that shows its summary has run over its inputs and reported
on each. After it, the file at the destination of an input holds the output for the last input whose
destination is at the same location; it holds the input's own output if no two inputs go to one
location.

Later outputs are written over earlier ones at their location and leave every other file, and the
directories that lead to it, as they are. -/
theorem last_output_stands (request : MigrateRequest) (output : Path) (before : FileTree)
    (table : Table) (asked : request.output = some output)
    (summed : .table table ∈ (migrate request before).known) :
    ∃ configuration units report, Runs request before configuration units report ∧
      table = summaryTable report ∧
      report.files.length = (inputs before request.paths).length ∧
      (∀ delivery ∈ (inputs before request.paths).zip report.files, ∃ last,
        lastBeside? (goesTo request output before) delivery.1
          ((inputs before request.paths).zip report.files) = some last ∧
        (migrate request before).state.read (destination output request.render delivery.1) =
          .ok (outputText request.render last.2.unit)) ∧
      (((inputs before request.paths).map (goesTo request output before)).Nodup →
        ∀ delivery ∈ (inputs before request.paths).zip report.files,
          (migrate request before).state.read (destination output request.render delivery.1) =
            .ok (outputText request.render delivery.2.unit)) := by
  obtain ⟨configuration, units, report, middle, runs, shown, trace, delivered⟩ :=
    reaches_migrate.mp ⟨summed, rfl⟩
  have places : goesTo request output middle = goesTo request output before :=
    funext fun _ => (gives_traced trace).resolve _
  have written := (gives_deliverAll asked delivered).2
  rw [places] at written
  refine ⟨configuration, units, report, runs, shown, runs.length, written, ?_⟩
  intro apart delivery listed
  obtain ⟨last, picked, read⟩ := written delivery listed
  rw [lastBeside?_apart runs.length apart listed picked] at read
  exact read

/-- Two directories with documents, two of which have one name. -/
def namesakes : FileTree where
  contents :=
    [(["a"], .directory), (["a", "X.json"], .file "\x7b\"source_path\": \"a/X\"\x7d"),
     (["b"], .directory), (["b", "X.json"], .file "\x7b\"source_path\": \"b/X\"\x7d"),
     (["b", "Y.json"], .file "\x7b\"source_path\": \"b/Y\"\x7d")]
  here := []

/-- The command that migrates two documents to an output directory. -/
def migrateTwo (first second : List String) : MigrateRequest where
  paths := [.relative first, .relative second]
  output := some (.relative ["out"])
  render := false
  settings := []
  trace := none
  workers := none

/-- A file that declares nothing. -/
def emptyUnit (sourcePath : String) : CompilationUnit := ⟨sourcePath, none, [], []⟩

/-- The report of a run on two files that declare nothing. -/
def emptyReport (first second : String) : RunReport :=
  ⟨[.untouched (emptyUnit first), .untouched (emptyUnit second)], 0⟩

/-- The command shows the summary of a run over two files that declare nothing, if it runs over them
and their outputs are written. -/
theorem reaches_migrateTwo {first second : List String} {firstSource secondSource : String}
    (runs : Runs (migrateTwo first second) namesakes {}
      [emptyUnit firstSource, emptyUnit secondSource] (emptyReport firstSource secondSource))
    (delivered : (deliverAll (migrateTwo first second)
      ((inputs namesakes (migrateTwo first second).paths).zip
        (emptyReport firstSource secondSource).files)).Gives namesakes after ()) :
    (migrate (migrateTwo first second)).Reaches
      (.table (summaryTable (emptyReport firstSource secondSource))) namesakes after :=
  reaches_migrate.mpr
    ⟨_, _, _, namesakes, runs, rfl, (Work.gives_pure ..).mpr ⟨rfl, rfl⟩, delivered⟩

/-- Documents of distinct names go to their own destinations. -/
theorem last_output_stands_apart :
    let request := migrateTwo ["a", "X.json"] ["b", "Y.json"]
    ∃ table, .table table ∈ (migrate request namesakes).known ∧
      ∃ configuration units report, Runs request namesakes configuration units report ∧
        ∀ delivery ∈ (inputs namesakes request.paths).zip report.files,
          (migrate request namesakes).state.read
              (destination (.relative ["out"]) false delivery.1) =
            .ok (outputText false delivery.2.unit) := by
  have runs : Runs (migrateTwo ["a", "X.json"] ["b", "Y.json"]) namesakes {}
      [emptyUnit "a/X", emptyUnit "b/Y"] (emptyReport "a/X" "b/Y") :=
    ⟨by decide, ⟨rfl, rfl⟩, by decide, rfl, rfl⟩
  have reached := (reaches_migrateTwo runs ⟨rfl, rfl⟩).1
  obtain ⟨configuration, units, report, runs, _, _, _, own⟩ :=
    last_output_stands _ _ namesakes _ rfl reached
  exact ⟨_, reached, configuration, units, report, runs, own (by decide)⟩

/-- Two documents of one name in two directories have one destination, and the output for the first
is lost. -/
theorem namesake_output_lost :
    let request := migrateTwo ["a", "X.json"] ["b", "X.json"]
    ∃ table, .table table ∈ (migrate request namesakes).known ∧
      ∃ configuration units report, Runs request namesakes configuration units report ∧
        (inputs namesakes request.paths).Nodup ∧
        ∃ delivery ∈ (inputs namesakes request.paths).zip report.files,
          (migrate request namesakes).state.read
              (destination (.relative ["out"]) false delivery.1) ≠
            .ok (outputText false delivery.2.unit) := by
  have runs : Runs (migrateTwo ["a", "X.json"] ["b", "X.json"]) namesakes {}
      [emptyUnit "a/X", emptyUnit "b/X"] (emptyReport "a/X" "b/X") :=
    ⟨by decide, ⟨rfl, rfl⟩, by decide, rfl, rfl⟩
  obtain ⟨shown, left⟩ := reaches_migrateTwo runs ⟨rfl, rfl⟩
  refine ⟨_, shown, _, _, _, runs, by decide, _, .head _, ?_⟩
  rw [left]
  intro own
  have lost : outputText false (emptyUnit "b/X") = outputText false (emptyUnit "a/X") :=
    Except.ok.inj own
  revert lost
  decide

end TypedDefaults.CommandLine
