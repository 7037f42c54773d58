import TypedDefaults.Proofs.Homes
import TypedDefaults.Proofs.Repetition
import TypedDefaults.Proofs.Returning

/-!
# Files that do not use the holder

A run may be told to pass over the files that do not use the holder. The test for
use reads imports and annotations, the search for occurrences goes through the
members of classes; yet no occurrence escapes the test. A file that fails it has
no occurrences, so nothing is stored for its path and none of its values moves,
and a run that works on it all the same leaves it as it is.
-/

namespace TypedDefaults

open Java

/-- The configuration under which a run works on every file. -/
def Configuration.unconditional (configuration : Configuration) : Configuration :=
  { configuration with requireHolderUsage := false }

namespace Occurrence

/-- The search through a member does not ask for use of the holder. -/
theorem ofMember_unconditional (configuration : Configuration) :
    ofMember configuration.unconditional = ofMember configuration :=
  ofMember_congr configuration configuration.unconditional rfl rfl

/-- A file has the same occurrences whether or not runs ask for use of the holder. -/
theorem ofUnit_unconditional (configuration : Configuration) (unit : CompilationUnit) :
    ofUnit configuration.unconditional unit = ofUnit configuration unit :=
  ofUnit_congr configuration configuration.unconditional rfl rfl unit

/-- A batch has the same occurrences whether or not runs ask for use of the holder. -/
theorem ofBatch_unconditional (configuration : Configuration) (units : List CompilationUnit) :
    ofBatch configuration.unconditional units = ofBatch configuration units :=
  List.flatMap_congr fun unit _ => ofUnit_unconditional configuration unit

end Occurrence

/-- The scan of a batch leaves the same whether or not it asks for use of the holder. -/
theorem scanned_unconditional (configuration : Configuration) (units : List CompilationUnit) :
    scanned configuration.unconditional units = scanned configuration units := by
  rw [scanned, scanned, Occurrence.ofBatch_unconditional]
  rfl

/-- The relocation of the values in a class body does not ask for use of the holder. -/
theorem Relocation.body_unconditional (configuration : Configuration) (store : Store) :
    body configuration.unconditional store = body configuration store := by
  have occurrences : ∀ found progress,
      occurrences configuration.unconditional store found progress =
        occurrences configuration store found progress := by
    intro found progress
    induction found generalizing progress with
    | nil => rfl
    | cons first rest inductionHypothesis =>
      rw [Relocation.occurrences, Relocation.occurrences]
      congr 1
      funext after
      exact inductionHypothesis after
  have member : member configuration.unconditional store = member configuration store := by
    funext file position given
    rw [Relocation.member, Relocation.member, Occurrence.ofMember_unconditional, occurrences]
  funext file position given
  rw [body, body, members, members, member]

namespace Apply

variable (configuration : Configuration) (units : List CompilationUnit)

/-- The work on a file that is touched does not ask for use of the holder. -/
theorem outcome_unconditional (store : Store) (unit : CompilationUnit) :
    outcome configuration.unconditional store unit = outcome configuration store unit := by
  have visits : visit configuration.unconditional store unit = visit configuration store unit := by
    funext position current
    rw [visit, visit, Relocation.body_unconditional]
  have changes : change configuration.unconditional store unit =
      change configuration store unit := by
    rw [change, change, visits]
    rfl
  funext start
  rw [outcome, outcome, changes]

/-- In a file that does not use the holder there is nothing to do: it has no occurrences, and where
no other file has its path, nothing is stored for it. -/
theorem settled_of_untouched (paths : (units.map CompilationUnit.sourcePath).Nodup)
    (unit : CompilationUnit) (listed : unit ∈ units)
    (untouched : ¬configuration.touches unit = true) :
    Settled configuration.unconditional (scanned configuration units).store unit := by
  have nothing := Occurrence.ofUnit_of_untouched configuration unit untouched
  have none : Occurrence.ofUnit configuration.unconditional unit = [] := by
    rw [Occurrence.ofUnit_unconditional, nothing]
  refine ⟨fun position _ => ?_, by simp [none], by simp [none]⟩
  refine List.eq_nil_iff_forall_not_mem.mpr fun entry due => ?_
  obtain ⟨⟨key, stored, file⟩, _⟩ := (Synthesis.mem_due_iff ..).mp due
  obtain ⟨occurrence, _, kept⟩ := Entry.kept_of_stored paths listed stored file
  have here := kept.here
  rw [nothing] at here
  cases here

/-- Each file of a batch is left alike, whether or not the run passes over it. -/
theorem outcome_file_unconditional (paths : (units.map CompilationUnit.sourcePath).Nodup)
    (unit : CompilationUnit) (listed : unit ∈ units) :
    (file configuration.unconditional (scanned configuration units).store unit ()).outcome =
      (file configuration (scanned configuration units).store unit ()).outcome := by
  have all : configuration.unconditional.touches unit = true := rfl
  by_cases touched : configuration.touches unit = true
  · rw [file, if_pos all, file, if_pos touched, outcome_unconditional]
  · have settled := settled_of_untouched configuration units paths unit listed touched
    rw [settled.file_leaves.2, Occurrence.ofUnit_unconditional,
      Occurrence.ofUnit_of_untouched configuration unit touched, file, if_neg touched]
    rfl

end Apply

/-- A run that works on every file ends as one that passes over those that do not use the holder. -/
theorem outcome_run_unconditional (configuration : Configuration) (units : List CompilationUnit)
    (paths : (units.map CompilationUnit.sourcePath).Nodup) :
    (run configuration.unconditional units ()).outcome = (run configuration units ()).outcome := by
  cases ended : (run configuration units ()).outcome with
  | error numeral =>
    rw [run_error_iff] at ended ⊢
    rw [Occurrence.ofBatch_unconditional]
    exact ended
  | ok report =>
    rw [run_returns_iff] at ended ⊢
    obtain ⟨analysable, worked, entries⟩ := ended
    rw [Occurrence.ofBatch_unconditional, scanned_unconditional]
    refine ⟨analysable, ?_, entries⟩
    rw [List.forall₂_iff_zip] at worked ⊢
    refine ⟨worked.1, fun {unit file} paired => ⟨rfl, ?_⟩⟩
    rw [Apply.outcome_file_unconditional configuration units paths unit (List.of_mem_zip paired).1]
    exact (worked.2 paired).2

/-- Where files have paths of their own, two configurations that differ only in whether a run passes
over the files that do not use the holder make runs end alike: with equal reports on every file and
as many entries, or with the same number that cannot be read.

Both runs end as the one that works on every file, because a file that fails the test for use has
no occurrences. -/
theorem holder_usage_immaterial (first second : Configuration) (units : List CompilationUnit)
    (paths : (units.map CompilationUnit.sourcePath).Nodup)
    (alike : { first with requireHolderUsage := second.requireHolderUsage } = second) :
    (run first units ()).outcome = (run second units ()).outcome := by
  have same : first.unconditional = second.unconditional := by
    rw [← alike]
    rfl
  rw [← outcome_run_unconditional first units paths, same,
    outcome_run_unconditional second units paths]

/-- A file that does not use the holder. -/
def plainClass : CompilationUnit := { singleClass [] with sourcePath := "N.java" }

/-- A file that does not use the holder, beside one with a value to be relocated, is passed over by
one run and worked on by another; the reports are equal. -/
theorem holder_usage_immaterial_beside_plain :
    ({} : Configuration).touches plainClass = false ∧
      (run { requireHolderUsage := false } [assortedClass, plainClass] ()).outcome =
        .ok (reported {} [assortedClass, plainClass]) ∧
      (reported {} [assortedClass, plainClass]).files.map FileReport.changed = [true, false] := by
  have ends := holder_usage_immaterial {} { requireHolderUsage := false }
    [assortedClass, plainClass] (by decide) rfl
  exact ⟨by decide, ends.symm.trans rfl, by decide⟩

end TypedDefaults
