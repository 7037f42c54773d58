import Mathlib.Algebra.GroupWithZero.Nat
import TypedDefaults.Proofs.Bookkeeping
import TypedDefaults.Proofs.Isolation

/-!
# Scans in any order

Files may be scanned side by side. The steps of their scans then come in some
order that keeps the order of each file, one step for each occurrence. Where
files have paths of their own, the order leaves no trace: what is kept under a
path is what the scan of the file alone leaves, down to the names of fields and
the numbers of literals, and the second phase makes of each file what a run over
it alone makes.
-/

namespace TypedDefaults

open Java

/-- A list takes its elements from the fronts of several lists, one after the other, until all are
used up. -/
inductive Interleaves {α : Type} : List (List α) → List α → Prop where
  | done (parts : List (List α)) (empty : ∀ part ∈ parts, part = []) : Interleaves parts []
  | step (parts : List (List α)) (index : Nat) (first : α) (rest order : List α)
      (next : parts[index]? = some (first :: rest))
      (later : Interleaves (parts.set index rest) order) : Interleaves parts (first :: order)

namespace Interleaves

variable {α : Type} {parts : List (List α)} {order : List α}

/-- An interleaving of lists has the elements of the lists. -/
theorem mem_iff (merged : Interleaves parts order) (element : α) :
    element ∈ order ↔ ∃ part ∈ parts, element ∈ part := by
  induction merged with
  | done parts empty =>
    constructor
    · intro inside
      cases inside
    · rintro ⟨part, listed, inside⟩
      rw [empty part listed] at inside
      cases inside
  | step parts index first rest order next later inductionHypothesis =>
    obtain ⟨bound, here⟩ := List.getElem?_eq_some_iff.mp next
    rw [List.mem_cons, inductionHypothesis]
    constructor
    · rintro (rfl | ⟨part, listed, inside⟩)
      · exact ⟨_, List.mem_of_getElem? next, List.mem_cons_self⟩
      · rcases List.mem_or_eq_of_mem_set listed with before | rfl
        · exact ⟨part, before, inside⟩
        · exact ⟨_, List.mem_of_getElem? next, List.mem_cons_of_mem first inside⟩
    · rintro ⟨part, listed, inside⟩
      obtain ⟨place, found⟩ := List.mem_iff_getElem?.mp listed
      by_cases same : place = index
      · rw [same, next] at found
        obtain rfl := Option.some.inj found
        rcases List.mem_cons.mp inside with rfl | later
        · exact .inl rfl
        · exact .inr ⟨rest, List.mem_set bound rest, later⟩
      · refine .inr ⟨part, List.mem_of_getElem? (i := place) ?_, inside⟩
        rw [List.getElem?_set_ne (Ne.symm same)]
        exact found

/-- What tells the elements of one list from those of the others picks the list out, in its
order. -/
theorem filter_part (merged : Interleaves parts order) (chosen : α → Bool) (place : Nat)
    (part : List α) (here : parts[place]? = some part) (own : ∀ element ∈ part, chosen element)
    (others : ∀ index other, index ≠ place → parts[index]? = some other →
      ∀ element ∈ other, ¬chosen element = true) :
    order.filter chosen = part := by
  induction merged generalizing part with
  | done parts empty => rw [empty part (List.mem_of_getElem? here), List.filter_nil]
  | step parts index first rest order next later inductionHypothesis =>
    obtain ⟨bound, _⟩ := List.getElem?_eq_some_iff.mp next
    have remaining : ∀ elsewhere other, elsewhere ≠ place →
        (parts.set index rest)[elsewhere]? = some other →
          ∀ element ∈ other, ¬chosen element = true := by
      intro elsewhere other apart found element inside
      by_cases same : index = elsewhere
      · rw [← same, List.getElem?_set_self bound] at found
        obtain rfl := Option.some.inj found
        exact others index _ (same ▸ apart) next element (List.mem_cons_of_mem first inside)
      · rw [List.getElem?_set_ne same] at found
        exact others elsewhere other apart found element inside
    by_cases same : index = place
    · subst same
      obtain rfl := Option.some.inj (next.symm.trans here)
      rw [List.forall_mem_cons] at own
      rw [List.filter_cons_of_pos own.1,
        inductionHypothesis rest (List.getElem?_set_self bound) own.2 remaining]
    · have other := others index _ same next first List.mem_cons_self
      rw [List.filter_cons_of_neg other]
      exact inductionHypothesis part (by rwa [List.getElem?_set_ne same]) own remaining

/-- A further list without elements changes nothing. -/
theorem cons_nil (merged : Interleaves parts order) : Interleaves ([] :: parts) order := by
  induction merged with
  | done parts empty =>
    refine .done _ ?_
    rw [List.forall_mem_cons]
    exact ⟨rfl, empty⟩
  | step parts index first rest order next later inductionHypothesis =>
    exact .step _ (index + 1) first rest order next inductionHypothesis

/-- The lists one after the other are an order that merges them. -/
theorem flatten (parts : List (List α)) : Interleaves parts parts.flatten := by
  induction parts with
  | nil => exact .done [] (by simp)
  | cons part rest inductionHypothesis =>
    induction part with
    | nil => exact inductionHypothesis.cons_nil
    | cons first remaining behind => exact .step _ 0 first remaining _ rfl behind

end Interleaves

/-- If the images of a list are among distinct values, the list is as long as its shares for these
values are together. -/
theorem length_eq_sum_shares {α β : Type} [DecidableEq β] (image : α → β) (list : List α)
    (values : List β) (distinct : values.Nodup) (covered : ∀ part ∈ list, image part ∈ values) :
    list.length =
      (values.map fun value => (list.filter fun part => image part = value).length).sum := by
  rw [← (shares_perm image list values distinct covered).length_eq, List.length_flatMap]

section

variable {configuration : Configuration} {units : List CompilationUnit} {order : List Occurrence}

/-- Of an order that merges the occurrences of files with paths of their own, those with the path of
a file are its occurrences. -/
theorem Interleaves.filter_ofUnit
    (merged : Interleaves (units.map (Occurrence.ofUnit configuration)) order)
    (paths : (units.map CompilationUnit.sourcePath).Nodup) (unit : CompilationUnit)
    (listed : unit ∈ units) :
    order.filter (fun occurrence => occurrence.file = unit.sourcePath) =
      Occurrence.ofUnit configuration unit := by
  obtain ⟨place, here⟩ := List.mem_iff_getElem?.mp listed
  refine merged.filter_part _ place _ (by rw [List.getElem?_map, here, Option.map_some]) ?_ ?_
  · intro occurrence found
    exact decide_eq_true (Occurrence.file_of_mem_ofUnit found).1
  · intro index other apart found occurrence inside
    rw [List.getElem?_map, Option.map_eq_some_iff] at found
    obtain ⟨second, there, rfl⟩ := found
    rw [decide_eq_true_eq, (Occurrence.file_of_mem_ofUnit inside).1]
    intro same
    obtain ⟨bound, rfl⟩ := List.getElem?_eq_some_iff.mp there
    obtain ⟨limit, rfl⟩ := List.getElem?_eq_some_iff.mp here
    have bounded : index < (units.map CompilationUnit.sourcePath).length := by simpa using bound
    have limited : place < (units.map CompilationUnit.sourcePath).length := by simpa using limit
    have samePath : (units.map CompilationUnit.sourcePath)[index] =
        (units.map CompilationUnit.sourcePath)[place] := by simpa using same
    exact apart (paths.getElem_inj_iff.mp samePath)

/-- The scan in an order that merges the files leaves for each file what the scan of the file alone
leaves. -/
theorem Interleaves.restricted_scan
    (merged : Interleaves (units.map (Occurrence.ofUnit configuration)) order)
    (paths : (units.map CompilationUnit.sourcePath).Nodup) (unit : CompilationUnit)
    (listed : unit ∈ units) :
    (order.foldl (ScanState.scan configuration) (.starting .empty)).restricted unit.sourcePath =
      scanned configuration [unit] := by
  rw [ScanState.foldl_scan_restricted, merged.filter_ofUnit paths unit listed, scanned,
    Occurrence.ofBatch, List.flatMap_singleton]
  rfl

/-- The scan in an order that merges the files leaves as many entries as the scans of single files
together. -/
theorem Interleaves.size_scan
    (merged : Interleaves (units.map (Occurrence.ofUnit configuration)) order)
    (paths : (units.map CompilationUnit.sourcePath).Nodup) :
    (order.foldl (ScanState.scan configuration) (.starting .empty)).store.size =
      (units.map fun unit => (scanned configuration [unit]).store.size).sum := by
  have records := ScanState.records_foldl configuration order
  rw [Store.size, length_eq_sum_shares (fun stored : Key × Entry => stored.1.file) _ _ paths,
    List.map_map]
  · congr 1
    refine List.map_congr_left fun unit listed => ?_
    rw [← merged.restricted_scan paths unit listed]
    rfl
  · intro stored inside
    obtain ⟨occurrence, seen, _, made⟩ := records.made stored inside
    obtain ⟨_, part, found⟩ := (merged.mem_iff occurrence).mp seen
    obtain ⟨unit, listed, rfl⟩ := List.mem_map.mp part
    rw [made.keyed.file, (Occurrence.file_of_mem_ofUnit found).1]
    exact List.mem_map_of_mem listed

end

/-- A run that scans the occurrences in an order of its own returns a report: both phases complete,
the second one with what the first leaves. -/
def ReturnsInOrder (configuration : Configuration) (units : List CompilationUnit)
    (order : List Occurrence) (report : RunReport) : Prop :=
  ∃ state analyses,
    (Work.forEach (Scan.occurrence configuration) order).Gives (.starting .empty) state analyses ∧
      (Apply.batch configuration state.store units).Gives () () report.files ∧
      report.entries = state.store.size

/-- A run that scans in an order of its own returns exactly if all analyses end and the work on the
files does, from what the scan leaves. -/
theorem returnsInOrder_iff (configuration : Configuration) (units : List CompilationUnit)
    (order : List Occurrence) (report : RunReport) :
    ReturnsInOrder configuration units order report ↔
      (∀ found ∈ order, found.Analysable configuration) ∧
        List.Forall₂ (fun unit file => (Apply.file configuration
          (order.foldl (ScanState.scan configuration) (.starting .empty)).store unit).Gives () ()
            file) units report.files ∧
        report.entries =
          (order.foldl (ScanState.scan configuration) (.starting .empty)).store.size := by
  have scans := Work.completes_forEach _ _ _ (Scan.completes_occurrence configuration) order
    (.starting .empty)
  rw [ReturnsInOrder]
  simp only [Apply.gives_batch]
  constructor
  · rintro ⟨state, analyses, scan, files, entries⟩
    obtain ⟨analysable, rfl⟩ := (scans state).mp ⟨analyses, scan⟩
    exact ⟨analysable, files, entries⟩
  · rintro ⟨analysable, files, entries⟩
    obtain ⟨analyses, scan⟩ := (scans _).mpr ⟨analysable, rfl⟩
    exact ⟨_, analyses, scan, files, entries⟩

/-- A run as it is takes the occurrences file by file. -/
theorem run_returns_in_order (configuration : Configuration) (units : List CompilationUnit)
    (report : RunReport) :
    (run configuration units ()).outcome = .ok report ↔
      ReturnsInOrder configuration units (Occurrence.ofBatch configuration units) report := by
  rw [run_returns_iff, returnsInOrder_iff]
  rfl

/-- A run over one file returns exactly if its analyses end and the work on it does, with what its
own scan leaves. -/
theorem run_single_iff (configuration : Configuration) (unit : CompilationUnit)
    (single : RunReport) :
    (run configuration [unit] ()).outcome = .ok single ↔
      (∀ found ∈ Occurrence.ofUnit configuration unit, found.Analysable configuration) ∧
        ∃ file,
          (Apply.file configuration (scanned configuration [unit]).store unit).Gives () () file ∧
            single = ⟨[file], (scanned configuration [unit]).store.size⟩ := by
  rw [run_returns_iff, Occurrence.ofBatch, List.flatMap_singleton, List.forall₂_cons_left_iff]
  rcases single with ⟨files, entries⟩
  constructor
  · rintro ⟨analysable, ⟨file, rest, gives, none, listed⟩, size⟩
    obtain rfl := List.forall₂_nil_left_iff.mp none
    exact ⟨analysable, file, gives, RunReport.mk.injEq .. ▸ ⟨listed, size⟩⟩
  · rintro ⟨analysable, file, gives, same⟩
    obtain ⟨rfl, rfl⟩ := RunReport.mk.inj same
    exact ⟨analysable, ⟨file, [], gives, .nil, rfl⟩, rfl⟩

/-- Runs over single files return given reports, and a given number of entries together, exactly if
all analyses end and the work on each file does, with what its own scan leaves. -/
theorem runs_alone_iff (configuration : Configuration) (units : List CompilationUnit)
    (files : List FileReport) (entries : Nat) :
    (∃ alone, List.Forall₂ (fun unit single => (run configuration [unit] ()).outcome = .ok single)
        units alone ∧
        alone.map RunReport.files = files.map (fun file => [file]) ∧
        entries = (alone.map RunReport.entries).sum) ↔
      (∀ unit ∈ units, ∀ found ∈ Occurrence.ofUnit configuration unit,
          found.Analysable configuration) ∧
        List.Forall₂ (fun unit file =>
          (Apply.file configuration (scanned configuration [unit]).store unit).Gives () () file)
          units files ∧
        entries = (units.map fun unit => (scanned configuration [unit]).store.size).sum := by
  induction units generalizing files entries with
  | nil =>
    simp only [List.forall₂_nil_left_iff]
    constructor
    · rintro ⟨_, rfl, reported, rfl⟩
      exact ⟨by simp, List.map_eq_nil_iff.mp reported.symm, rfl⟩
    · rintro ⟨_, rfl, rfl⟩
      exact ⟨[], rfl, rfl, rfl⟩
  | cons unit rest inductionHypothesis =>
    rw [List.forall_mem_cons, List.forall₂_cons_left_iff, List.map_cons, List.sum_cons]
    constructor
    · rintro ⟨alone, each, reported, rfl⟩
      obtain ⟨single, others, returned, later, rfl⟩ := List.forall₂_cons_left_iff.mp each
      obtain ⟨analysable, file, gives, rfl⟩ := (run_single_iff ..).mp returned
      cases files with
      | nil => cases reported
      | cons first remaining =>
        obtain ⟨same, behind⟩ := List.cons.inj reported
        obtain rfl : file = first := (List.cons.inj same).1
        obtain ⟨others, worked, size⟩ :=
          (inductionHypothesis remaining _).mp ⟨_, later, behind, rfl⟩
        refine ⟨⟨analysable, others⟩, ⟨file, remaining, gives, worked, rfl⟩, ?_⟩
        rw [List.map_cons, List.sum_cons, size]
    · rintro ⟨⟨analysable, others⟩, ⟨file, remaining, gives, worked, rfl⟩, rfl⟩
      obtain ⟨alone, each, reported, size⟩ :=
        (inductionHypothesis remaining _).mpr ⟨others, worked, rfl⟩
      refine ⟨_, .cons ((run_single_iff ..).mpr ⟨analysable, file, gives, rfl⟩) each, ?_, ?_⟩
      · rw [List.map_cons, List.map_cons, reported]
      · rw [List.map_cons, List.sum_cons, size]

section

variable {configuration : Configuration} {units : List CompilationUnit} {order : List Occurrence}

/-- All analyses end in an order that merges the files exactly if they do in each file. -/
theorem Interleaves.analysable_iff
    (merged : Interleaves (units.map (Occurrence.ofUnit configuration)) order) :
    (∀ found ∈ order, found.Analysable configuration) ↔
      ∀ unit ∈ units, ∀ found ∈ Occurrence.ofUnit configuration unit,
        found.Analysable configuration := by
  simp only [merged.mem_iff, List.mem_map]
  constructor
  · intro analysable unit listed found inside
    exact analysable found ⟨_, ⟨unit, listed, rfl⟩, inside⟩
  · rintro analysable found ⟨_, ⟨unit, listed, rfl⟩, inside⟩
    exact analysable unit listed found inside

/-- A run that scans in an order that merges the files reports of each file what a run over it alone
reports. -/
theorem Interleaves.returns_iff
    (merged : Interleaves (units.map (Occurrence.ofUnit configuration)) order)
    (paths : (units.map CompilationUnit.sourcePath).Nodup) (report : RunReport) :
    ReturnsInOrder configuration units order report ↔
      ∃ alone, List.Forall₂
          (fun unit single => (run configuration [unit] ()).outcome = .ok single) units alone ∧
        alone.map RunReport.files = report.files.map (fun file => [file]) ∧
        report.entries = (alone.map RunReport.entries).sum := by
  have worked : List.Forall₂ (fun unit file => (Apply.file configuration
      (order.foldl (ScanState.scan configuration) (.starting .empty)).store unit).Gives () ()
        file) units report.files ↔
      List.Forall₂ (fun unit file => (Apply.file configuration
        (scanned configuration [unit]).store unit).Gives () () file) units report.files := by
    rw [List.forall₂_iff_zip, List.forall₂_iff_zip]
    refine and_congr_right fun _ => forall_congr' fun unit => forall_congr' fun file =>
      forall_congr' fun paired => ?_
    have own := merged.restricted_scan paths unit (List.of_mem_zip paired).1
    rw [← Apply.file_restricted, ← own]
    rfl
  rw [returnsInOrder_iff, runs_alone_iff, merged.analysable_iff, merged.size_scan paths, worked]

end

/-- Where files have paths of their own, the order in which their occurrences are scanned does not
matter, if it keeps the order in each file. What the scan leaves for a file is what the scan of the
file alone leaves: the same keys, each with the same entry, and the same number of literals. The run
reports of each file what a run over it alone reports, and as many entries as these runs together;
so it reports what a run reports that scans file by file.

A step changes what is kept for the file of its occurrence as if this were all that is kept, and
nothing else. So for each file the scan is a fold over its own occurrences, whatever stands between
them; the second phase reads no more of the store than that. -/
theorem scan_order_immaterial (configuration : Configuration) (units : List CompilationUnit)
    (order : List Occurrence) (paths : (units.map CompilationUnit.sourcePath).Nodup)
    (merged : Interleaves (units.map (Occurrence.ofUnit configuration)) order) :
    (∀ state analyses, (Work.forEach (Scan.occurrence configuration) order).Gives
        (.starting .empty) state analyses →
      ∀ unit ∈ units, ∃ alone,
        (Scan.batch configuration [unit]).Gives (.starting .empty) alone () ∧
          state.restricted unit.sourcePath = alone ∧
          (∀ key, key.file = unit.sourcePath → state.store.get? key = alone.store.get? key) ∧
          state.store.countLiterals unit.sourcePath =
            alone.store.countLiterals unit.sourcePath) ∧
      (∀ report, ReturnsInOrder configuration units order report ↔
        ∃ alone, List.Forall₂
            (fun unit single => (run configuration [unit] ()).outcome = .ok single) units alone ∧
          alone.map RunReport.files = report.files.map (fun file => [file]) ∧
          report.entries = (alone.map RunReport.entries).sum) ∧
      ∀ report, ReturnsInOrder configuration units order report ↔
        (run configuration units ()).outcome = .ok report := by
  refine ⟨?_, merged.returns_iff paths, ?_⟩
  · intro state analyses scan unit listed
    obtain ⟨analysable, rfl⟩ := (Work.completes_forEach _ _ _
      (Scan.completes_occurrence configuration) order _ _).mp ⟨analyses, scan⟩
    have alone := merged.restricted_scan paths unit listed
    refine ⟨scanned configuration [unit], ?_, alone, ?_, ?_⟩
    · rw [Scan.completes_batch, scanned, Occurrence.ofBatch, List.flatMap_singleton]
      exact ⟨merged.analysable_iff.mp analysable unit listed, rfl⟩
    · intro key own
      rw [← alone]
      exact (Store.get?_restricted _ _ key own).symm
    · rw [← alone]
      exact (Store.countLiterals_restricted _ _).symm
  · intro report
    have fileByFile : Interleaves (units.map (Occurrence.ofUnit configuration))
        (Occurrence.ofBatch configuration units) := by
      rw [Occurrence.ofBatch, List.flatMap_def]
      exact .flatten _
    rw [run_returns_in_order, merged.returns_iff paths, fileByFile.returns_iff paths]

/-- A file with a list of constants and a list of literals. -/
def listsAt (path : String) : CompilationUnit :=
  let list := JavaType.generic (.topLevel "java.util.List") [.string]
  { singleClass
      [annotatedField list (constantBehind "A" (some (.topLevel "p.A"))),
       annotatedField list (.literal "\"a,b\"" none)] with
    sourcePath := path }

/-- The occurrences of two files with a list of constants and a list of literals, of which the
second one is begun first. -/
def listsInTurns : List Occurrence :=
  let first := Occurrence.ofUnit literalsApart (listsAt "M.java")
  let second := Occurrence.ofUnit literalsApart (listsAt "N.java")
  [second[0]!, first[0]!, first[1]!, second[1]!]

/-- Scanned in turns, two files with two lists each are reported as each alone. -/
theorem scan_order_immaterial_in_turns :
    listsInTurns.map Occurrence.file = ["N.java", "M.java", "M.java", "N.java"] ∧
      ReturnsInOrder literalsApart [listsAt "M.java", listsAt "N.java"] listsInTurns
        ⟨["M.java", "N.java"].flatMap fun path =>
          (reported literalsApart [listsAt path]).files, 4⟩ := by
  have lists : [listsAt "M.java", listsAt "N.java"].map (Occurrence.ofUnit literalsApart) =
      [[listsInTurns[1]!, listsInTurns[2]!], [listsInTurns[0]!, listsInTurns[3]!]] := rfl
  have merged : Interleaves
      ([listsAt "M.java", listsAt "N.java"].map (Occurrence.ofUnit literalsApart))
      listsInTurns := by
    rw [lists]
    exact .step _ 1 _ _ _ rfl (.step _ 0 _ _ _ rfl (.step _ 0 _ _ _ rfl (.step _ 1 _ _ _ rfl
      (.done [[], []] (by simp)))))
  obtain ⟨_, returns, _⟩ := scan_order_immaterial literalsApart
    [listsAt "M.java", listsAt "N.java"] listsInTurns (by decide) merged
  refine ⟨rfl, (returns _).mpr ⟨[reported literalsApart [listsAt "M.java"],
    reported literalsApart [listsAt "N.java"]], ?_, ?_, ?_⟩⟩
  · exact .cons rfl (.cons rfl .nil)
  · decide
  · decide

end TypedDefaults
