import TypedDefaults.Proofs.TracedRuns

/-!
# The import of the value holder

An import is added where no ordinary one is there of the class or of all classes of
its package. Its place respects two orders at once: names among the ordinary imports,
and static imports behind the ordinary ones. Neither has to hold of the list before,
and each is kept if it does. A run adds the import of the value holder to exactly the
files that have got companions and do not cover it.
-/

namespace TypedDefaults

open Java

/-- The import is an ordinary one of a class or of all classes of its package. -/
def Java.Import.IsFor (name : String) (entry : Import) : Prop :=
  entry.isStatic = false ∧ (entry.name = name ∨ entry.name = ClassType.wildcard name)

/-- A class is covered if there is an import for it. -/
theorem Java.covered_iff (name : String) (imports : List Import) :
    covered name imports = true ↔ ∃ entry ∈ imports, entry.IsFor name := by
  simp [covered, Import.covers, Import.IsFor]

/-- No import is added where the class is covered. -/
theorem Java.ensureImport_of_covered {name : String} {imports : List Import}
    (covers : ∃ entry ∈ imports, entry.IsFor name) : ensureImport name imports = imports := by
  rw [ensureImport, if_pos ((covered_iff name imports).mpr covers)]

/-- One import is added, at its place, where the class is not covered. -/
theorem Java.ensureImport_placed {name : String} {imports : List Import}
    (missing : ¬∃ entry ∈ imports, entry.IsFor name) :
    ∃ front back, imports = front ++ back ∧
      ensureImport name imports = front ++ ⟨name, false⟩ :: back ∧
      Import.Placed ⟨name, false⟩ front back := by
  rw [← covered_iff] at missing
  rw [ensureImport, if_neg missing]
  exact insertImport_placed ⟨name, false⟩ imports

/-- The list of imports becomes another one exactly if the class is not covered. -/
theorem Java.ensureImport_ne_iff (name : String) (imports : List Import) :
    ensureImport name imports ≠ imports ↔ ¬∃ entry ∈ imports, entry.IsFor name := by
  constructor
  · exact fun added covers => added (ensureImport_of_covered covers)
  · intro missing same
    obtain ⟨front, back, parts, inserted, _⟩ := ensureImport_placed missing
    have longer := congrArg List.length (inserted.symm.trans (same.trans parts))
    simp at longer

/-- The ordinary imports are sorted by name. -/
def SortedByName (imports : List Import) : Prop :=
  (imports.filter fun entry => !entry.isStatic).Pairwise fun earlier later =>
    earlier.name ≤ later.name

/-- Imports are sorted by name if each two ordinary ones of them are in order. -/
theorem sortedByName_iff (imports : List Import) :
    SortedByName imports ↔ imports.Pairwise fun earlier later =>
      earlier.isStatic = false → later.isStatic = false → earlier.name ≤ later.name := by
  rw [SortedByName, List.pairwise_filter]
  simp

/-- All static imports stand behind all ordinary ones. -/
def StaticLast (imports : List Import) : Prop :=
  imports.Pairwise fun earlier later => earlier.isStatic = true → later.isStatic = true

/-- An import that sorts after a name is an ordinary one whose name does. -/
theorem Java.Import.sortsAfter_iff (name : String) (entry : Import) :
    entry.sortsAfter name = true ↔ entry.isStatic = false ∧ name < entry.name := by
  rw [sortsAfter, Bool.and_eq_true, Bool.not_eq_true', decide_eq_true_eq]

namespace Java.Import.Placed

variable {new : Import} {front back : List Import}

/-- Ordinary imports in front of a new one do not sort after it. -/
theorem le_of_front (placed : new.Placed front back) {entry : Import} (inside : entry ∈ front)
    (ordinary : entry.isStatic = false) : entry.name ≤ new.name := by
  have before := placed.before entry inside
  rw [← Bool.not_eq_true, sortsAfter_iff, not_and] at before
  exact String.not_lt.mp (before ordinary)

/-- Sorted imports behind a new one do not sort before it, if they are ordinary. -/
theorem le_of_back (placed : new.Placed front back) (sorted : SortedByName back) {entry : Import}
    (inside : entry ∈ back) (ordinary : entry.isStatic = false) : new.name ≤ entry.name := by
  rcases placed.behind with ⟨next, first, sorts⟩ | ⟨static, _⟩
  · obtain ⟨rest, rfl⟩ := List.head?_eq_some_iff.mp first
    obtain ⟨nextOrdinary, after⟩ := (sortsAfter_iff new.name next).mp sorts
    have first : new.name ≤ next.name := String.not_lt.mp (String.lt_asymm after)
    rw [sortedByName_iff, List.pairwise_cons] at sorted
    rcases List.mem_cons.mp inside with rfl | behind
    · exact first
    · exact String.le_trans first (sorted.1 entry behind nextOrdinary ordinary)
  · rw [static entry inside] at ordinary
    cases ordinary

/-- Sorted imports stay sorted. -/
theorem sortedByName (placed : new.Placed front back) (sorted : SortedByName (front ++ back)) :
    SortedByName (front ++ new :: back) := by
  rw [sortedByName_iff, List.pairwise_append] at sorted
  obtain ⟨sortedFront, sortedBack, across⟩ := sorted
  rw [sortedByName_iff, List.pairwise_append, List.pairwise_cons]
  refine ⟨sortedFront, ⟨fun later behind _ ordinary => ?_, sortedBack⟩,
    fun earlier before later behind ordinary ordinaryLater => ?_⟩
  · exact placed.le_of_back ((sortedByName_iff back).mpr sortedBack) behind ordinary
  · rcases List.mem_cons.mp behind with rfl | behind
    · exact placed.le_of_front before ordinary
    · exact across earlier before later behind ordinary ordinaryLater

/-- Where static imports are last, there are none in front of a new one. -/
theorem ordinary_front (placed : new.Placed front back) (last : StaticLast (front ++ back)) :
    ∀ entry ∈ front, entry.isStatic = false := by
  rw [StaticLast, List.pairwise_append] at last
  obtain ⟨lastFront, _, across⟩ := last
  rcases placed.behind with ⟨next, first, sorts⟩ | ⟨_, ends⟩
  · have ordinary := ((sortsAfter_iff new.name next).mp sorts).1
    intro entry inside
    refine Bool.eq_false_iff.mpr fun static => ?_
    have follows := across entry inside next (List.mem_of_mem_head? first) static
    exact Bool.false_ne_true (ordinary.symm.trans follows)
  · rcases List.eq_nil_or_concat front with rfl | ⟨others, final, rfl⟩
    · simp
    · rw [List.concat_eq_append] at ends lastFront ⊢
      have ordinary : final.isStatic = false := ends final List.getLast?_concat
      intro entry inside
      rcases List.mem_append.mp inside with before | same
      · refine Bool.eq_false_iff.mpr fun static => ?_
        have follows := (List.pairwise_append.mp lastFront).2.2 entry before final
          (List.mem_singleton_self final) static
        exact Bool.false_ne_true (ordinary.symm.trans follows)
      · rw [List.mem_singleton.mp same, ordinary]

/-- Static imports stay last. -/
theorem staticLast (placed : new.Placed front back) (ordinary : new.isStatic = false)
    (last : StaticLast (front ++ back)) : StaticLast (front ++ new :: back) := by
  have before := placed.ordinary_front last
  rw [StaticLast, List.pairwise_append] at last ⊢
  obtain ⟨lastFront, lastBack, _⟩ := last
  refine ⟨lastFront, List.pairwise_cons.mpr ⟨fun _ _ static => ?_, lastBack⟩,
    fun earlier inside _ _ static => ?_⟩
  · rw [ordinary] at static
    cases static
  · rw [before earlier inside] at static
    cases static

end Java.Import.Placed

/-- What adding an import does to a list of imports. -/
structure ExtendsImports (name : String) (imports result : List Import) : Prop where
  kept : (∃ entry ∈ imports, entry.IsFor name) → result = imports
  inserted : (¬∃ entry ∈ imports, entry.IsFor name) →
    ∃ front back, imports = front ++ back ∧ result = front ++ ⟨name, false⟩ :: back
  settled : ensureImport name result = result
  sorted : SortedByName imports → SortedByName result
  staticLast : StaticLast imports → StaticLast result

/-- An import is added if it is needed, once, and in order. -/
theorem extendsImports (name : String) (imports : List Import) :
    ExtendsImports name imports (ensureImport name imports) := by
  have settled : ensureImport name (ensureImport name imports) = ensureImport name imports :=
    ensureImport_of_covered ((covered_iff ..).mp (covered_ensureImport name imports))
  by_cases covers : ∃ entry ∈ imports, entry.IsFor name
  · have same := ensureImport_of_covered covers
    exact ⟨fun _ => same, fun missing => absurd covers missing, settled,
      fun sorted => by rwa [same], fun last => by rwa [same]⟩
  · obtain ⟨front, back, rfl, inserted, placed⟩ := ensureImport_placed covers
    refine ⟨fun covered => absurd covered covers, fun _ => ⟨front, back, rfl, inserted⟩, settled,
      fun sorted => ?_, fun last => ?_⟩
    · rw [inserted]
      exact placed.sortedByName sorted
    · rw [inserted]
      exact placed.staticLast rfl last

section

variable {configuration : Configuration} {store : Store} {unit : CompilationUnit}

/-- A file has got as many companions as it has more annotations. -/
theorem Java.CompilationUnit.Accompanied.length_eq {output : CompilationUnit}
    {attached : List AnnotationUse} (accompanied : unit.Accompanied configuration output attached) :
    output.annotations.length = attached.length + unit.annotations.length := by
  obtain ⟨kept, beside, types⟩ := accompanied.beside
  have lengths := congrArg List.length types
  rw [List.length_map, List.length_map] at lengths
  rw [beside.length_eq, List.length_append, lengths]

/-- A migrated file has the imports of the file extended if companions are counted and imports are
to be added. -/
theorem Apply.Migrates.imports {report : FileReport}
    (migrates : Migrates configuration store unit report) :
    report.unit.imports =
      if configuration.addImports = true ∧ report.tally.companions ≠ 0 then
        ensureImport configuration.valueHolder unit.imports
      else unit.imports := by
  rw [migrates.result, migrates.counted]
  split
  · exact newImports_getD configuration _ unit.imports
  · exact (if_neg fun counted => counted.2 rfl).symm

/-- A file that a run leaves has imports other than it had exactly if they are to be added, a
companion was attached, and the value holder was not covered; the value holder is added then. -/
structure Java.CompilationUnit.ImportsHolder (configuration : Configuration)
    (unit output : CompilationUnit) : Prop where
  changes : output.imports ≠ unit.imports ↔
    configuration.addImports = true ∧
      (∃ attached, attached ≠ [] ∧ unit.Accompanied configuration output attached) ∧
      ¬∃ entry ∈ unit.imports, entry.IsFor configuration.valueHolder
  extended : output.imports ≠ unit.imports →
    output.imports = ensureImport configuration.valueHolder unit.imports

/-- A migrated file imports the value holder if that was needed, and otherwise what it did. -/
theorem Apply.Migrates.importsHolder {report : FileReport}
    (migrates : Migrates configuration store unit report) :
    unit.ImportsHolder configuration report.unit := by
  have imports := migrates.imports
  obtain ⟨attached, counted, accompanied⟩ := migrates.accompanied
  have companions : (∃ attached, attached ≠ [] ∧
      unit.Accompanied configuration report.unit attached) ↔ report.tally.companions ≠ 0 := by
    rw [← counted]
    constructor
    · rintro ⟨others, some, accompaniedToo⟩
      have lengths := accompanied.length_eq.symm.trans accompaniedToo.length_eq
      have positive := List.length_pos_iff.mpr some
      omega
    · exact fun some => ⟨attached, List.length_pos_iff.mp (Nat.pos_of_ne_zero some), accompanied⟩
  by_cases asked : configuration.addImports = true ∧ report.tally.companions ≠ 0
  · rw [if_pos asked] at imports
    refine ⟨?_, fun _ => imports⟩
    rw [imports, ensureImport_ne_iff, companions]
    exact ⟨fun missing => ⟨asked.1, asked.2, missing⟩, fun needed => needed.2.2⟩
  · rw [if_neg asked] at imports
    refine ⟨iff_of_false (fun changed => changed imports) fun needed => ?_,
      fun changed => absurd imports changed⟩
    exact asked ⟨needed.1, companions.mp needed.2.1⟩

end

/-- Imports are added exactly when they are needed, and in order. An import that is added to a list
leaves the list as it is if an ordinary import of the class or its package is there, and otherwise
stands at some place in it. Adding it again changes nothing. Sorted imports stay sorted, and static
imports that stood last stay last.

A run that returns has changed the imports of a file exactly if imports are to be added, at least
one companion was attached in the file, and the value holder was not covered. -/
theorem imports_added_when_needed :
    (∀ name imports, ExtendsImports name imports (ensureImport name imports)) ∧
      ∀ (configuration : Configuration) (units : List CompilationUnit) (report : RunReport),
        (run configuration units ()).outcome = .ok report →
          List.Forall₂ (fun unit (file : FileReport) =>
            unit.ImportsHolder configuration file.unit) units report.files := by
  refine ⟨extendsImports, fun configuration units report returned => ?_⟩
  exact (run_migrates configuration units report returned).imp fun _ _ migrates =>
    migrates.importsHolder

/-- In front of a static import, the value holder is put at its place behind an ordinary one; of two
files, the one that gets a companion imports it. -/
theorem imports_added_when_needed_beside_plain :
    StaticLast [⟨"a.b.C", false⟩, ⟨"org.Foo.bar", true⟩] ∧
      StaticLast (ensureImport "x.y.z.DefaultValue" [⟨"a.b.C", false⟩, ⟨"org.Foo.bar", true⟩]) ∧
      ∃ first second entries,
        (run {} [assortedClass, plainClass] ()).outcome = .ok ⟨[first, second], entries⟩ ∧
          first.unit.imports = [⟨"x.y.z.DefaultValue", false⟩] ∧
          ∃ attached, attached ≠ [] ∧ assortedClass.Accompanied {} first.unit attached := by
  have last : StaticLast [⟨"a.b.C", false⟩, ⟨"org.Foo.bar", true⟩] := by simp [StaticLast]
  refine ⟨last, (imports_added_when_needed.1 _ _).staticLast last, _, _, _, rfl, rfl, ?_⟩
  have files := imports_added_when_needed.2 {} [assortedClass, plainClass] _ rfl
  have changed := (List.forall₂_cons.mp files).1.changes
  exact (changed.mp (by decide)).2.1

end TypedDefaults
