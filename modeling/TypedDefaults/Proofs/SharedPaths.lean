import TypedDefaults.Proofs.Counterparts
import TypedDefaults.Proofs.Isolation

/-!
# Files with one path

A run knows a file by its path, and nothing keeps two files of a batch from
having the same one. Such files share the entries of their path: a value that
was stored for the first of them is not stored again for the second, which then
refers to a field that it does not get. Files with other paths are out of reach;
what becomes of a file depends on the files with its path alone.
-/

namespace TypedDefaults

open Java

namespace Apply

variable {configuration : Configuration} {store : Store} {unit : CompilationUnit}

/-- The work on a file reports its path. -/
theorem sourcePath_of_gives (report : FileReport)
    (gives : (file configuration store unit).Gives () () report) :
    report.sourcePath = unit.sourcePath := by
  rw [file] at gives
  split at gives
  · rw [Work.gives_inPhase] at gives
    rcases outcome_cases gives with ⟨failure, _, rfl⟩ | ⟨tally, answer, _, _, rfl⟩ <;> rfl
  · obtain ⟨_, rfl⟩ := (Work.gives_pure ..).mp gives
    rfl

/-- The files of a path are worked on with the entries that they leave themselves. -/
theorem file_of_path (configuration : Configuration) (units : List CompilationUnit)
    (unit : CompilationUnit) (path : String) (own : unit.sourcePath = path) :
    file configuration (scanned configuration units).store unit =
      file configuration (scanned configuration
        (units.filter fun other => other.sourcePath = path)).store unit := by
  rw [← file_restricted, own, ← scanned_restricted]
  rfl

end Apply

/-- The reports of a run for a path are those of a run over the files with that path, in order. -/
theorem run_of_path {configuration : Configuration} {units : List CompilationUnit}
    {report : RunReport} (returned : (run configuration units ()).outcome = .ok report)
    (path : String) :
    ∃ entries, (run configuration (units.filter fun unit => unit.sourcePath = path) ()).outcome =
      .ok ⟨report.files.filter fun file => file.sourcePath = path, entries⟩ := by
  obtain ⟨analysable, worked, _⟩ := (run_returns_iff configuration units report).mp returned
  refine ⟨_, (run_returns_iff ..).mpr ⟨?_, ?_, rfl⟩⟩
  · intro found inside
    obtain ⟨unit, listed, here⟩ := List.mem_flatMap.mp inside
    exact analysable found (List.mem_flatMap.mpr ⟨unit, (List.mem_filter.mp listed).1, here⟩)
  · have chosen : List.Forall₂ (fun unit file =>
        (Apply.file configuration (scanned configuration units).store unit).Gives () () file)
          (units.filter fun unit => unit.sourcePath = path)
          (report.files.filter fun file => file.sourcePath = path) := by
      refine List.rel_filter (fun unit file gives => ?_) worked
      simp only [Apply.sourcePath_of_gives file gives]
    rw [List.forall₂_iff_zip] at chosen ⊢
    refine ⟨chosen.1, fun {unit file} paired => ?_⟩
    have own := (List.mem_filter.mp (List.of_mem_zip paired).1).2
    rw [← Apply.file_of_path configuration units unit path (of_decide_eq_true own)]
    exact chosen.2 paired

/-- What is chosen from two lists stands side by side as it did in them, if the elements that stand
side by side are chosen together. -/
theorem zip_filter {α β : Type} (keep : α → Bool) (take : β → Bool) (left : List α)
    (right : List β)
    (together : List.Forall₂ (fun first second => keep first = take second) left right) :
    (left.filter keep).zip (right.filter take) =
      (left.zip right).filter fun pair => keep pair.1 := by
  induction together with
  | nil => rfl
  | @cons first second rest others same _ inductionHypothesis =>
    rw [List.zip_cons_cons, List.filter_cons, List.filter_cons, List.filter_cons, ← same]
    split
    · rw [List.zip_cons_cons, inductionHypothesis]
    · exact inductionHypothesis

/-- What a run makes of a file is what a run over the files with its path makes of it; the reports
of these files are those of the path. So a file that is the only one of its path comes out as from a
run over it alone.

The store has for a path what the occurrences of its files have put there, and the work on a file
reads nothing else of it. -/
theorem files_depend_on_their_path (configuration : Configuration) (units : List CompilationUnit)
    (report : RunReport) (returned : (run configuration units ()).outcome = .ok report)
    (unit output : CompilationUnit) (files : (unit, output) ∈ units.zip report.units) :
    ∃ own, (run configuration (units.filter fun other => other.sourcePath = unit.sourcePath)
        ()).outcome = .ok own ∧
      own.files = report.files.filter (fun file => file.sourcePath = unit.sourcePath) ∧
      (unit, output) ∈ (units.filter fun other => other.sourcePath = unit.sourcePath).zip
        own.units ∧
      ((units.filter fun other => other.sourcePath = unit.sourcePath) = [unit] →
        own.units = [output]) := by
  obtain ⟨entries, own⟩ := run_of_path returned unit.sourcePath
  obtain ⟨_, worked, _⟩ := (run_returns_iff configuration units report).mp returned
  have together : List.Forall₂ (fun (other : CompilationUnit) (file : FileReport) =>
      decide (other.sourcePath = unit.sourcePath) = decide (file.sourcePath = unit.sourcePath))
        units report.files :=
    worked.imp fun other file gives => by rw [Apply.sourcePath_of_gives file gives]
  have kept : (unit, output) ∈ (units.filter fun other => other.sourcePath = unit.sourcePath).zip
      ((report.files.filter fun file => file.sourcePath = unit.sourcePath).map
        FileReport.unit) := by
    rw [RunReport.units, List.zip_map_right] at files
    rw [List.zip_map_right, zip_filter _ _ _ _ together]
    obtain ⟨pair, side, same⟩ := List.mem_map.mp files
    refine List.mem_map.mpr ⟨pair, List.mem_filter.mpr ⟨side, decide_eq_true ?_⟩, same⟩
    exact congrArg (fun pair => pair.1.sourcePath) same
  refine ⟨_, own, rfl, kept, fun alone => ?_⟩
  rw [run_output own kept, run_units own, alone, List.map_singleton]

/-- A file of a package, with a list of literals. -/
def literalsOf (package path : String) : CompilationUnit :=
  let list := JavaType.generic (.topLevel "java.util.List") [.string]
  { sourcePath := path
    package := some package
    imports := []
    classes := [⟨⟨"M", .topLevel (package ++ ".M"), [], []⟩,
      [annotatedField list (.literal "\"a,b\"" none)]⟩] }

/-- Beside a file with another path, a file comes out as from a run over it alone. -/
theorem files_depend_on_their_path_alone :
    ∃ own, (run literalsApart [literalsOf "q" "N.java"] ()).outcome = .ok own ∧
      own.units = [(reported literalsApart
        [literalsOf "p" "M.java", literalsOf "q" "N.java"]).units[1]!] := by
  obtain ⟨own, returned, _, _, alone⟩ := files_depend_on_their_path literalsApart
    [literalsOf "p" "M.java", literalsOf "q" "N.java"]
    (reported literalsApart [literalsOf "p" "M.java", literalsOf "q" "N.java"]) rfl
    (literalsOf "q" "N.java")
    (reported literalsApart [literalsOf "p" "M.java", literalsOf "q" "N.java"]).units[1]!
    (by decide)
  exact ⟨own, returned, alone (by decide)⟩

/-- Behind a file with the same path, a file does not come out as from a run over it alone: the one
entry becomes a field of the first file, and the second file refers to it from outside. -/
theorem shared_path_mixes_files :
    ∃ together alone,
      (run literalsApart [literalsOf "p" "M.java", literalsOf "q" "M.java"] ()).outcome =
        .ok together ∧
      (run literalsApart [literalsOf "q" "M.java"] ()).outcome = .ok alone ∧
      together.units[1]? ≠ alone.units[0]? :=
  ⟨reported literalsApart [literalsOf "p" "M.java", literalsOf "q" "M.java"],
    reported literalsApart [literalsOf "q" "M.java"], rfl, rfl, by decide⟩

end TypedDefaults
