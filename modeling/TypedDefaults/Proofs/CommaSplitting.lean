import TypedDefaults.Proofs.ContainerLiterals

/-!
# Splitting at commas

The parts of a text are told by four facts: none has a comma, joined they are the
text up to some commas at its end, a text without comma is its own part, and of a
text with commas the last part is not empty, where there is one. There is one list
of parts of this kind for every text, since the commas at the end stand between
empty parts, and it is what a container literal is split into.
-/

namespace TypedDefaults

section

variable {α : Type}

/-- A text is split into parts as the method `split` of strings does it. -/
structure SplitsInto (separator : α) (text : List α) (parts : List (List α)) : Prop where
  apart : ∀ part ∈ parts, separator ∉ part
  joined : ∃ count, text = [separator].intercalate parts ++ List.replicate count separator
  whole : separator ∉ text → parts = [text]
  filled : separator ∈ text → parts.getLast? ≠ some []

/-- A part with empty ones behind it has as many separators behind it. -/
theorem intercalate_cons_empties (separator : α) (part : List α) (count : Nat) :
    [separator].intercalate (part :: List.replicate count []) =
      part ++ List.replicate count separator := by
  induction count generalizing part with
  | zero => simp
  | succ count inductionHypothesis =>
    rw [List.replicate_succ, List.intercalate_cons_cons, inductionHypothesis, List.nil_append,
      List.replicate_succ, List.append_assoc, List.singleton_append]

/-- Parts with empty ones behind them have as many separators behind them. -/
theorem intercalate_append_empties (separator : α) {parts : List (List α)} (some : parts ≠ [])
    (count : Nat) :
    [separator].intercalate (parts ++ List.replicate count []) =
      [separator].intercalate parts ++ List.replicate count separator := by
  induction parts with
  | nil => exact absurd rfl some
  | cons first rest inductionHypothesis =>
    cases rest with
    | nil =>
      rw [List.singleton_append, List.intercalate_singleton, intercalate_cons_empties]
    | cons second rest =>
      rw [List.cons_append, List.cons_append, List.intercalate_cons_cons, ← List.cons_append,
        inductionHypothesis (by simp), List.intercalate_cons_cons]
      simp only [List.append_assoc]

/-- Parts are those up to the last that is not empty, and empty ones. -/
theorem exists_empties (parts : List (List α)) :
    ∃ count, parts = parts.rdropWhile List.isEmpty ++ List.replicate count [] := by
  have empties : parts.rtakeWhile List.isEmpty =
      List.replicate (parts.rtakeWhile List.isEmpty).length [] := by
    rw [List.eq_replicate_iff]
    exact ⟨rfl, fun part inside => List.isEmpty_iff.mp (List.mem_rtakeWhile_imp inside)⟩
  refine ⟨(parts.rtakeWhile List.isEmpty).length, ?_⟩
  rw [← empties, List.rdropWhile_append_rtakeWhile]

/-- Behind a last part that is not empty, all empty ones are dropped. -/
theorem rdropWhile_append_empties {parts : List (List α)} (filled : parts.getLast? ≠ some [])
    (count : Nat) : (parts ++ List.replicate count []).rdropWhile List.isEmpty = parts := by
  have empties : ∀ part ∈ List.replicate count ([] : List α), part.isEmpty = true := by
    intro part inside
    rw [List.eq_of_mem_replicate inside]
    rfl
  rw [List.rdropWhile, List.reverse_append, List.reverse_replicate,
    List.dropWhile_append_of_pos empties, ← List.rdropWhile, List.rdropWhile_eq_self_iff]
  intro some empty
  rw [List.getLast?_eq_some_getLast some, List.isEmpty_iff.mp empty] at filled
  exact filled rfl

variable [DecidableEq α]

/-- All the parts between separators are those of the split, and empty ones. -/
theorem splitOn_eq_javaSplit (separator : α) (text : List α) :
    ∃ count, text.splitOn separator = javaSplit separator text ++ List.replicate count [] := by
  rw [javaSplit]
  split
  · exact exists_empties _
  · rename_i absent
    have single : ([separator].intercalate [text]).splitOn separator = [text] :=
      List.splitOn_intercalate separator (by simpa using absent) (by simp)
    rw [List.intercalate_singleton] at single
    exact ⟨0, by simpa using single⟩

/-- What the method gives joins to the text, up to separators at the end. -/
theorem joined_javaSplit (separator : α) (text : List α) :
    ∃ count, text = [separator].intercalate (javaSplit separator text) ++
      List.replicate count separator := by
  obtain ⟨count, fields⟩ := splitOn_eq_javaSplit separator text
  have joined : [separator].intercalate (text.splitOn separator) = text :=
    List.intercalate_splitOn separator
  rw [fields] at joined
  by_cases none : javaSplit separator text = []
  · rw [none, List.nil_append] at fields joined
    rw [none]
    cases count with
    | zero => exact absurd fields (List.splitOn_ne_nil separator text)
    | succ count =>
      rw [List.replicate_succ, intercalate_cons_empties] at joined
      exact ⟨count, joined.symm⟩
  · rw [intercalate_append_empties separator none] at joined
    exact ⟨count, joined.symm⟩

/-- The method `split` splits a text into parts as it should. -/
theorem splitsInto_javaSplit (separator : α) (text : List α) :
    SplitsInto separator text (javaSplit separator text) where
  apart _ := not_mem_of_mem_javaSplit
  joined := joined_javaSplit separator text
  whole absent := if_neg absent
  filled inside last := by
    rw [javaSplit, if_pos inside] at last
    have some : (text.splitOn separator).rdropWhile List.isEmpty ≠ [] := by
      rintro empty
      rw [empty] at last
      cases last
    rw [List.getLast?_eq_some_getLast some, Option.some.injEq] at last
    exact List.rdropWhile_last_not _ _ some (List.isEmpty_iff.mpr last)

/-- A text is split as the method `split` does it in one way only. -/
theorem SplitsInto.eq_javaSplit {separator : α} {text : List α} {parts : List (List α)}
    (splits : SplitsInto separator text parts) : parts = javaSplit separator text := by
  by_cases inside : separator ∈ text
  · obtain ⟨count, joined⟩ := splits.joined
    rw [javaSplit, if_pos inside]
    by_cases none : parts = []
    · -- Separators alone stand between empty parts, one more than there are of them.
      rw [none, List.intercalate_nil, List.nil_append, ← List.nil_append (List.replicate _ _),
        ← intercalate_cons_empties] at joined
      rw [joined, List.splitOn_intercalate separator (by simp) (by simp), none, eq_comm,
        List.rdropWhile_eq_nil_iff]
      simp
    · rw [← intercalate_append_empties separator none] at joined
      rw [joined, List.splitOn_intercalate separator _ (by simp [none]),
        rdropWhile_append_empties (splits.filled inside)]
      intro part among
      rcases List.mem_append.mp among with own | empty
      · exact splits.apart part own
      · rw [List.eq_of_mem_replicate empty]
        exact List.not_mem_nil
  · rw [splits.whole inside, javaSplit, if_neg inside]

end

/-- Container literals are split at commas as Java does. Every text is split, into parts of which
none has a comma and that are the text when they are joined, up to commas at its end; a text without
comma is its only part, and the last part of a text with commas is not empty. No other list of parts
is of this kind. So of all parts between commas, empty ones included, exactly empty ones at the end
are dropped. -/
theorem commas_split_exactly (text : String) :
    Literal.split "," text = .ok (Literal.splitAtCommas text) ∧
      SplitsInto ',' text.toList ((Literal.splitAtCommas text).map String.toList) ∧
      (∀ parts : List String, SplitsInto ',' text.toList (parts.map String.toList) →
        parts = Literal.splitAtCommas text) ∧
      ∃ count, (text.toList.splitOn ',').map String.ofList =
        Literal.splitAtCommas text ++ List.replicate count "" := by
  have characters : (Literal.splitAtCommas text).map String.toList =
      javaSplit ',' text.toList := by
    rw [splitAtCommas_eq, List.map_map]
    simp [Function.comp_def]
  refine ⟨rfl, ?_, fun parts splits => ?_, ?_⟩
  · rw [characters]
    exact splitsInto_javaSplit ',' text.toList
  · have same := splits.eq_javaSplit
    rw [← characters] at same
    exact List.map_injective_iff.mpr (fun _ _ => String.toList_injective) same
  · obtain ⟨count, fields⟩ := splitOn_eq_javaSplit ',' text.toList
    refine ⟨count, ?_⟩
    rw [fields, splitAtCommas_eq, List.map_append, List.map_replicate]

/-- Parts that are the text up to commas at its end, and end in a part that is not empty, are those
into which it is split. -/
theorem commas_split_exactly_both_ends :
    SplitsInto ',' ",a,,b,,".toList (["", "a", "", "b"].map String.toList) ∧
      Literal.split "," ",a,,b,," = .ok ["", "a", "", "b"] := by
  have splits : SplitsInto ',' ",a,,b,,".toList (["", "a", "", "b"].map String.toList) :=
    ⟨by decide, ⟨2, by decide⟩, fun absent => absurd (by decide) absent, fun _ => by decide⟩
  obtain ⟨split, _, unique, _⟩ := commas_split_exactly ",a,,b,,"
  exact ⟨splits, by rw [split, ← unique _ splits]⟩

end TypedDefaults
