import TypedDefaults.Proofs.Agreement
import TypedDefaults.Proofs.Evaluation

/-!
# Runs that return

A literal that cannot be converted is skipped, with one exception: a whole number
for a member of a whole-number type that has more digits than are read ends the
whole run. A run returns exactly if it has no such number, and otherwise ends
with the first one. If it returns, it has relocated the values of all occurrences
that the scan does not skip, and every file has been migrated.
-/

namespace TypedDefaults

open Java

namespace Literal

/-- A whole number is refused exactly for the number of its digits. -/
theorem wholeToken?_error_iff (kind : Kind) (range : Int × Int) (text : List Char)
    (numeral : OversizedNumeral) :
    wholeToken? kind range text = .error numeral ↔
      ∃ negative digits, wholeNumber? text = some (negative, digits) ∧
        Numeral.digitLimit < digits.length ∧ numeral = ⟨digits.length⟩ := by
  rw [wholeToken?]
  cases read : wholeNumber? text with
  | none => simp
  | some number =>
    rcases number with ⟨negative, digits⟩
    simp only [Option.some.injEq, Prod.mk.injEq]
    split
    · rename_i long
      simp only [Except.error.injEq]
      constructor
      · rintro rfl
        exact ⟨negative, digits, ⟨rfl, rfl⟩, long, rfl⟩
      · rintro ⟨_, _, ⟨rfl, rfl⟩, _, rfl⟩
        rfl
    · rename_i short
      refine iff_of_false ?_ ?_
      · split <;> simp
      · rintro ⟨_, _, ⟨rfl, rfl⟩, long, _⟩
        exact short long

/-- A literal is refused exactly if its kind has a range and its text is a whole number with more
digits than are read. -/
theorem convert_error_iff (kind : Kind) (token : String) (numeral : OversizedNumeral) :
    convert kind token = .error numeral ↔
      ∃ range negative digits, range? kind = some range ∧
        wholeNumber? (unquote token).toList = some (negative, digits) ∧
        Numeral.digitLimit < digits.length ∧ numeral = ⟨digits.length⟩ := by
  have mapped : ∀ (keyword : String) (result : Except OversizedNumeral (Option String)),
      (result.map fun converted => converted.map fun source =>
        Expression.literal source (some (.primitive keyword))) = .error numeral ↔
        result = .error numeral := by
    intro keyword result
    cases result <;> simp [Except.map]
  cases kind <;>
    simp only [convert, keyword?, mapped, token?, range?, wholeToken?_error_iff, reduceCtorEq,
      Option.some.injEq, exists_eq_left', exists_and_left, false_and, exists_false]

end Literal

namespace Occurrence

/-- The value of an occurrence is a literal for a whole-number type, of a whole number with more
digits than are read. -/
def Oversized (found : Occurrence) (numeral : OversizedNumeral) : Prop :=
  ∃ token type range negative digits, found.value = .literal token type ∧
    Literal.range? found.kind = some range ∧
    Literal.wholeNumber? (Literal.unquote token).toList = some (negative, digits) ∧
    Numeral.digitLimit < digits.length ∧ numeral = ⟨digits.length⟩

/-- Kinds with a range are scalar. -/
theorem isScalar_of_range (kind : Kind) (range : Int × Int)
    (ranged : Literal.range? kind = some range) : kind.isScalar = true := by
  cases kind with
  | byte => rfl
  | short => rfl
  | int => rfl
  | long => rfl
  | _ => cases ranged

/-- The analysis of a literal for a scalar kind is its conversion. -/
theorem analyse_scalar (configuration : Configuration) (found : Occurrence) (token : String)
    (type : Option JavaType) (scalar : found.kind.isScalar = true)
    (written : found.value = .literal token type) :
    found.analyse configuration =
      (Literal.convert found.kind token).map fun converted =>
        ⟨found.kind, some (.literal token type),
          match converted with
          | some value => .inPlace value
          | none => .skipped .invalidLiteral⟩ := by
  have stored : found.kind.isStored = true := by simp [Kind.isStored, scalar]
  obtain ⟨fit, noString⟩ := found.kind.stored_iff.mp stored
  rw [analyse_eq, if_neg fit, if_neg noString, written]
  simp only [Anchor.ofExpression?, outcomeOf, scalar, if_true]
  cases Literal.convert found.kind token with
  | error numeral => rfl
  | ok converted => cases converted <;> rfl

/-- An analysis that converts no literal ends. -/
theorem analysable_of_unconverted (configuration : Configuration) (found : Occurrence)
    (unconverted : ∀ token type, found.value = .literal token type → ¬found.kind.isScalar = true) :
    found.Analysable configuration := by
  rw [Analysable, analyse_eq]
  split
  · exact ⟨_, rfl⟩
  split
  · exact ⟨_, rfl⟩
  cases anchored : Anchor.ofExpression? found.value with
  | none => exact ⟨_, rfl⟩
  | some anchor =>
    have written := Anchor.expression_of_ofExpression? anchored
    cases anchor with
    | literal token type =>
      simp only [outcomeOf, if_neg (unconverted token type written.symm)]
      split <;> exact ⟨_, rfl⟩
    | localSymbol name symbol => exact ⟨_, rfl⟩
    | qualified target name type symbol => exact ⟨_, rfl⟩

/-- An analysis does not end exactly if the value is a whole number with more digits than are read.
-/
theorem analyse_error_iff (configuration : Configuration) (found : Occurrence)
    (numeral : OversizedNumeral) :
    found.analyse configuration = .error numeral ↔ found.Oversized numeral := by
  constructor
  · intro refused
    obtain ⟨token, type, written, scalar⟩ :
        ∃ token type, found.value = .literal token type ∧ found.kind.isScalar = true := by
      by_contra none
      obtain ⟨analysis, ended⟩ := found.analysable_of_unconverted configuration
        fun token type written scalar => none ⟨token, type, written, scalar⟩
      rw [refused] at ended
      cases ended
    rw [analyse_scalar configuration found token type scalar written] at refused
    have conversion : Literal.convert found.kind token = .error numeral := by
      revert refused
      cases Literal.convert found.kind token <;> simp [Except.map]
    obtain ⟨range, negative, digits, number⟩ := (Literal.convert_error_iff ..).mp conversion
    exact ⟨token, type, range, negative, digits, written, number⟩
  · rintro ⟨token, type, range, negative, digits, written, number⟩
    have conversion := (Literal.convert_error_iff found.kind token numeral).mpr
      ⟨range, negative, digits, number⟩
    rw [analyse_scalar configuration found token type (isScalar_of_range _ range number.1) written,
      conversion]
    rfl

/-- A value is skipped as an invalid literal exactly if it is a literal that cannot be converted to
the scalar kind of its member. -/
theorem skippedFor?_invalid_iff (configuration : Configuration) (found : Occurrence) :
    found.skippedFor? configuration = some .invalidLiteral ↔
      ∃ token type, found.kind.isScalar = true ∧ found.value = .literal token type ∧
        Literal.convert found.kind token = .ok none := by
  constructor
  · rw [skippedFor?]
    split
    · rename_i kind anchor reason analysed
      rintro ⟨⟩
      generalize outcome : Analysis.mk kind anchor (.skipped .invalidLiteral) = analysis
        at analysed
      cases analyse_finds configuration found analysis analysed with
      | refused token type scalar written refusal => exact ⟨token, type, scalar, written, refusal⟩
      | anchorless stored absent =>
        rcases anchorlessReason_cases found.value with unresolved | unsupported
        · simp [unresolved] at outcome
        · simp [unsupported] at outcome
      | _ => simp at outcome
    · simp
  · rintro ⟨token, type, scalar, written, refusal⟩
    rw [skippedFor?, analyse_scalar configuration found token type scalar written, refusal]
    rfl

/-- Nothing stands in the way of an analysis exactly if it ends. -/
theorem unread_eq_nil_iff (configuration : Configuration) (found : Occurrence) :
    found.unread configuration = [] ↔ found.Analysable configuration := by
  rw [unread, Analysable]
  cases found.analyse configuration <;> simp [Work.refusals]

/-- What stands in the way of an analysis is a number with too many digits. -/
theorem head?_unread_iff (configuration : Configuration) (found : Occurrence)
    (numeral : OversizedNumeral) :
    (found.unread configuration).head? = some numeral ↔ found.Oversized numeral := by
  rw [← analyse_error_iff configuration, unread]
  cases found.analyse configuration <;> simp [Work.refusals]

/-- An analysis ends exactly if the value is no whole number with more digits than are read. -/
theorem analysable_iff (configuration : Configuration) (found : Occurrence) :
    found.Analysable configuration ↔ ∀ numeral, ¬found.Oversized numeral := by
  simp only [← analyse_error_iff configuration, Analysable]
  cases found.analyse configuration <;> simp

end Occurrence

/-- Nothing is wrong with an entry exactly if it can be made a field. -/
theorem Entry.defects_eq_nil_iff (imports : List Import) (entry : Entry) :
    entry.defects imports = [] ↔ ∃ field, entry.field imports = .ok field := by
  rw [defects]
  cases entry.field imports <;> simp [Work.refusals]

namespace Scan

variable (configuration : Configuration)

/-- In the way of the scan of an occurrence stands its analysis. -/
theorem failsFirst_occurrence (found : Occurrence) :
    Work.FailsFirst (occurrence configuration found) (found.unread configuration) :=
  (Work.failsFirst_ofExcept _).followed fun _ => Work.failsFirst_state.followed fun _ =>
    (Work.failsFirst_modify _).followed fun _ => (Work.failsFirst_tell _).followed fun _ =>
      Work.failsFirst_pure _

/-- In the way of the scan of a file stand the analyses of its occurrences. -/
theorem failsFirst_touched (unit : CompilationUnit) :
    Work.FailsFirst (touched configuration unit)
      ((Occurrence.ofUnit configuration unit).flatMap (Occurrence.unread configuration)) := by
  rw [touched]
  split
  · exact Work.failsFirst_inPhase _ _
      ((Work.failsFirst_forEach fun found _ => failsFirst_occurrence configuration found).followed
        fun _ => Work.failsFirst_pure ())
  · rename_i untouched
    rw [Occurrence.ofUnit_of_untouched configuration unit untouched]
    exact Work.failsFirst_pure ()

/-- In the way of the scan of a batch stand the analyses of its occurrences. -/
theorem failsFirst_batch (units : List CompilationUnit) :
    Work.FailsFirst (batch configuration units)
      ((Occurrence.ofBatch configuration units).flatMap (Occurrence.unread configuration)) := by
  rw [Occurrence.ofBatch, List.flatMap_assoc]
  exact Work.failsFirst_inPhase _ _
    ((Work.failsFirst_forEach fun unit _ => failsFirst_touched configuration unit).followed
      fun _ => Work.failsFirst_pure ())

end Scan

namespace Apply

variable {configuration : Configuration} {store : Store} {unit : CompilationUnit}

/-- Nothing stands in the way of a file exactly if every entry due for one of its classes can be
made a field, and all analyses end. -/
theorem clear_iff :
    unit.visits.flatMap (obstacles configuration store unit) = [] ↔
      (∀ position ∈ unit.positions,
        ∀ entry ∈ Synthesis.due store unit.sourcePath position.declaration,
          ∃ field, entry.field unit.imports = .ok field) ∧
        ∀ found ∈ Occurrence.ofUnit configuration unit, found.Analysable configuration := by
  simp only [List.flatMap_eq_nil_iff, unit.visits_perm.mem_iff, obstacles,
    List.append_eq_nil_iff, List.map_eq_nil_iff, Entry.defects_eq_nil_iff,
    Occurrence.unread_eq_nil_iff, Occurrence.ofUnit, List.mem_flatMap]
  constructor
  · intro clear
    refine ⟨fun position placed => (clear position placed).1, ?_⟩
    rintro found ⟨position, placed, inside⟩
    exact (clear position placed).2 found inside
  · rintro ⟨fillable, analysable⟩ position placed
    exact ⟨fillable position placed, fun found inside => analysable found
      ⟨position, placed, inside⟩⟩

/-- Nothing stands in the way of a file if every stored entry can be made a field, and all analyses
end. -/
theorem failsFirst_file
    (fillable : ∀ stored ∈ store.entries, ∃ field, stored.2.field unit.imports = .ok field)
    (analysable : ∀ found ∈ Occurrence.ofUnit configuration unit,
      found.Analysable configuration) :
    Work.FailsFirst (file configuration store unit) [] := by
  have clear : unit.visits.flatMap (obstacles configuration store unit) = [] := by
    refine clear_iff.mpr ⟨fun position _ entry due => ?_, analysable⟩
    obtain ⟨⟨key, stored, _⟩, _⟩ := (Synthesis.mem_due_iff ..).mp due
    exact fillable (key, entry) stored
  rw [file]
  split
  · obtain ⟨changed, ended⟩ := outcome_of_clear clear
    refine Work.failsFirst_inPhase _ _ fun _ numeral => iff_of_false ?_ (by simp)
    rw [Work.Fails, ended]
    simp
  · exact Work.failsFirst_pure _

end Apply

/-- A run returns if all analyses end. -/
theorem run_returns (configuration : Configuration) (units : List CompilationUnit)
    (analysable : ∀ found ∈ Occurrence.ofBatch configuration units,
      found.Analysable configuration) :
    ∃ report, (run configuration units ()).outcome = .ok report := by
  have files : Work.FailsFirst
      (Apply.batch configuration (scanned configuration units).store units)
      (units.flatMap fun _ => []) := by
    refine Work.failsFirst_inPhase _ _ (Work.failsFirst_forEach fun unit listed => ?_)
    exact Apply.failsFirst_file ((scanned_records configuration units).fillable unit.imports)
      fun found inside => analysable found (List.mem_flatMap.mpr ⟨unit, listed, inside⟩)
  rw [List.flatMap_eq_nil_iff.mpr fun _ _ => rfl] at files
  obtain ⟨_, reports, worked⟩ := files.gives ()
  exact ⟨⟨reports, _⟩, (run_returns_iff ..).mpr
    ⟨analysable, (Apply.gives_batch ..).mp worked, rfl⟩⟩

/-- A run ends with a number exactly if this is the first for which an analysis does not end. -/
theorem run_error_iff (configuration : Configuration) (units : List CompilationUnit)
    (numeral : OversizedNumeral) :
    (run configuration units ()).outcome = .error numeral ↔
      ((Occurrence.ofBatch configuration units).flatMap
        (Occurrence.unread configuration)).head? = some numeral := by
  have scan := Scan.failsFirst_batch configuration units
  cases stops : (Occurrence.ofBatch configuration units).flatMap
      (Occurrence.unread configuration) with
  | nil =>
    obtain ⟨report, returned⟩ := run_returns configuration units fun found inside =>
      (found.unread_eq_nil_iff configuration).mp (List.flatMap_eq_nil_iff.mp stops found inside)
    rw [returned]
    simp
  | cons first others =>
    rw [stops] at scan
    have failed := (scan (.starting .empty) first).mpr rfl
    rw [run]
    rcases ended : Scan.batch configuration units (.starting .empty) with ⟨state, known, outcome⟩
    rw [Work.Fails, ended] at failed
    subst failed
    simp

/-- A run returns a report exactly if no occurrence has a whole number with more digits than are
read for its default value, and otherwise ends with the first of them. If it returns, a literal that
cannot be converted is skipped as such, all values that the scan does not skip are relocated, and no
file fails.

Only such a number stops an analysis, in either phase. Where all analyses end, the entries of the
scan can all be made fields, so nothing stands in the way of any file. -/
theorem run_returns_unless_oversized (configuration : Configuration)
    (units : List CompilationUnit) :
    ((∃ report, (run configuration units ()).outcome = .ok report) ↔
      ∀ found ∈ Occurrence.ofBatch configuration units, ∀ numeral, ¬found.Oversized numeral) ∧
    (∀ numeral, (run configuration units ()).outcome = .error numeral ↔
      ∃ earlier found later,
        Occurrence.ofBatch configuration units = earlier ++ found :: later ∧
          found.Oversized numeral ∧
          ∀ other ∈ earlier, ∀ refused, ¬other.Oversized refused) ∧
    ∀ report, (run configuration units ()).outcome = .ok report →
      (∀ found ∈ Occurrence.ofBatch configuration units,
        found.skippedFor? configuration = some .invalidLiteral ↔
          ∃ token type, found.kind.isScalar = true ∧ found.value = .literal token type ∧
            Literal.convert found.kind token = .ok none) ∧
      List.Forall₂ (fun unit file => file.success = true ∧
          file.tally.relocated = (Occurrence.ofUnit configuration unit).countP
            (fun found => (found.skippedFor? configuration).isNone) ∧
          file.tally.skipped = (Occurrence.ofUnit configuration unit).countP
            fun found => (found.skippedFor? configuration).isSome)
        units report.files := by
  refine ⟨⟨?_, ?_⟩, fun numeral => ?_, fun report returned => ⟨fun found _ => ?_, ?_⟩⟩
  · rintro ⟨report, returned⟩ found inside
    obtain ⟨analysable, _⟩ := (run_returns_iff configuration units report).mp returned
    exact (found.analysable_iff configuration).mp (analysable found inside)
  · intro none
    exact run_returns configuration units fun found inside =>
      (found.analysable_iff configuration).mpr (none found inside)
  · simp only [run_error_iff, Work.head?_failures_iff, Occurrence.head?_unread_iff,
      Occurrence.unread_eq_nil_iff, Occurrence.analysable_iff]
  · exact found.skippedFor?_invalid_iff configuration
  · have agrees := ((run_returns_in_order configuration units report).mp returned).agrees
      fun unit listed found inside => List.mem_flatMap.mpr ⟨unit, listed, inside⟩
    refine agrees.imp fun unit file agree => ?_
    have skipped : file.tally.skipped = (Occurrence.ofUnit configuration unit).countP
        fun found => (found.skippedFor? configuration).isSome :=
      agree.skipped.trans (List.countP_congr fun found inside => by
        rw [agree.reasons found inside])
    have split := List.length_eq_countP_add_countP (fun found : Occurrence =>
      (found.skippedFor? configuration).isSome) (l := Occurrence.ofUnit configuration unit)
    have others : (Occurrence.ofUnit configuration unit).countP
          (fun found => (found.skippedFor? configuration).isNone) =
        (Occurrence.ofUnit configuration unit).countP
          fun found => !(found.skippedFor? configuration).isSome :=
      List.countP_congr fun found _ => by rw [Option.not_isSome]
    refine ⟨?_, ?_, skipped⟩
    · simpa [FileReport.success, FileReport.errors] using agree.unfailed
    · have total := agree.total
      simp only [Bool.not_eq_true, Bool.decide_eq_false] at split
      omega

/-- A file of a class with two whole numbers, of which the first is written as given. -/
def numberedClass (first : String) : CompilationUnit :=
  singleClass
    [annotatedField (.primitive "int") (.literal ("\"" ++ first ++ "\"") none),
     annotatedField (.primitive "int") (.literal "\"3\"" none)]

/-- Of two numbers, one whose text is no number is skipped, and the other is relocated. -/
theorem run_returns_despite_invalid :
    ∃ report, (run {} [numberedClass "abc"] ()).outcome = .ok report ∧
      List.Forall₂ (fun unit file => file.success = true ∧
          file.tally.relocated = (Occurrence.ofUnit {} unit).countP
            (fun found => (found.skippedFor? {}).isNone) ∧
          file.tally.skipped = (Occurrence.ofUnit {} unit).countP
            fun found => (found.skippedFor? {}).isSome)
        [numberedClass "abc"] report.files ∧
      report.files.map FileReport.tally = [⟨0, 1, 1, 1⟩] := by
  obtain ⟨_, _, returns⟩ := run_returns_unless_oversized {} [numberedClass "abc"]
  exact ⟨_, rfl, (returns _ rfl).2, by decide⟩

/-- Any number of nines is a whole number of as many digits. -/
theorem Literal.wholeNumber?_nines (count : Nat) :
    wholeNumber? (List.replicate (count + 1) '9') =
      some (false, List.replicate (count + 1) 9) := by
  have kept : withoutFinalLineFeed (List.replicate (count + 1) '9') =
      List.replicate (count + 1) '9' := by
    rw [withoutFinalLineFeed, List.getLast?_replicate]
    simp
  have unsigned : Numeral.splitSign (List.replicate (count + 1) '9') =
      (false, List.replicate (count + 1) '9') := rfl
  have digits : leadingDigits (List.replicate (count + 1) '9') =
      ('9' :: List.replicate count '9', []) := by
    rw [leadingDigits, List.takeWhile_replicate, List.dropWhile_replicate]
    rfl
  have values : digitValues ('9' :: List.replicate count '9') = List.replicate (count + 1) 9 := by
    have nine : Text.digitValue? '9' = some 9 := rfl
    rw [← List.replicate_succ, digitValues, List.filterMap_replicate_of_some nine]
  simp only [wholeNumber?, kept, unsigned, digits, values]

/-- A whole number of 4301 digits ends the run, so that the other number is not relocated. -/
theorem oversized_number_ends_run :
    (run {} [numberedClass (String.ofList (List.replicate 4301 '9'))] ()).outcome =
      .error ⟨4301⟩ := by
  generalize text : String.ofList (List.replicate 4301 '9') = nines
  have occurrences : ∃ found later, Occurrence.ofBatch {} [numberedClass nines] = found :: later ∧
      found.kind = .int ∧ found.value = .literal ("\"" ++ nines ++ "\"") none :=
    ⟨_, _, rfl, rfl, rfl⟩
  obtain ⟨found, later, first, kind, written⟩ := occurrences
  have oversized : found.Oversized ⟨4301⟩ := by
    refine ⟨_, none, (-2147483648, 2147483647), false, List.replicate 4301 9, written,
      by rw [kind]; rfl, ?_, ?_, ?_⟩
    · rw [unquote_quoted, ← text, String.toList_ofList]
      exact Literal.wholeNumber?_nines 4300
    · rw [List.length_replicate]
      decide
    · rw [List.length_replicate]
  rw [run_error_iff, Work.head?_failures_iff]
  exact ⟨[], found, later, first, (found.head?_unread_iff {} _).mpr oversized, by simp⟩

end TypedDefaults
