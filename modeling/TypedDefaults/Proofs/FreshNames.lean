import Mathlib.Data.List.Nodup
import Mathlib.Data.List.Perm.Subperm
import TypedDefaults.FieldName

/-!
# Fresh names

The search for a free numbering is bounded by the number of names in use. It
nevertheless always ends on a free one: the numberings of a candidate are
distinct, so the names in use cannot cover one numbering more than there are
names. No law here assumes anything about the candidate or the names in use.
-/

namespace TypedDefaults

namespace FieldName

/-- Decimal numerals determine their numbers. -/
theorem numeral_injective (left right : Nat) (same : toString left = toString right) :
    left = right := by
  rw [Nat.toString_eq_ofList_toDigits, Nat.toString_eq_ofList_toDigits,
    String.ofList_inj] at same
  have read := congrArg (fun digits => Nat.ofDigitChars 10 digits 0) same
  simpa only [Nat.ofDigitChars_ten_toDigits] using read

/-- A numeral has a digit at least, so a number behind a candidate changes it. -/
theorem numeral_nonempty (number : Nat) : toString number ≠ "" := by
  intro empty
  have length := congrArg (fun text => text.toList.length) empty
  have positive : 0 < (Nat.toDigits 10 number).length := Nat.length_toDigits_pos
  simp only [Nat.toString_eq_ofList_toDigits, String.toList_ofList, String.toList_empty,
    List.length_nil] at length
  omega

/-- No two numberings of a candidate are the same name. -/
theorem numbered_injective (candidate : String) (left right : Nat)
    (same : numbered candidate left = numbered candidate right) : left = right := by
  cases left with
  | zero =>
    cases right with
    | zero => rfl
    | succ right =>
      have empty : toString (right + 1) = "" := by
        apply (String.append_right_inj candidate).mp
        simpa only [numbered, String.append_empty] using same.symm
      exact absurd empty (numeral_nonempty _)
  | succ left =>
    cases right with
    | zero =>
      have empty : toString (left + 1) = "" := by
        apply (String.append_right_inj candidate).mp
        simpa only [numbered, String.append_empty] using same
      exact absurd empty (numeral_nonempty _)
    | succ right =>
      exact numeral_injective _ _ ((String.append_right_inj candidate).mp same)

/-- A search that ends on a name in use has found every numbering that it tried in use. -/
theorem firstFree_exhausted (used : List String) (candidate : String) (number attempts : Nat)
    (spent : firstFree used candidate number attempts ∈ used) :
    ∀ step ≤ attempts, numbered candidate (number + step) ∈ used := by
  induction attempts generalizing number with
  | zero =>
    intro step bounded
    obtain rfl : step = 0 := by omega
    exact spent
  | succ attempts inductionHypothesis =>
    by_cases taken : numbered candidate number ∈ used
    · rw [firstFree, if_pos (List.contains_iff_mem.mpr taken)] at spent
      intro step bounded
      cases step with
      | zero => exact taken
      | succ step =>
        have later := inductionHypothesis (number + 1) spent step (by omega)
        rwa [Nat.add_assoc, Nat.add_comm 1 step] at later
    · rw [firstFree, if_neg (fun contained => taken (List.contains_iff_mem.mp contained))] at spent
      exact absurd spent taken

/-- The name found is not in use.

Otherwise one numbering more than there are used names would be in use. As the numberings are
distinct, they would make a list without repetition inside a shorter list. -/
theorem fresh_unused (used : List String) (candidate : String) : fresh used candidate ∉ used := by
  intro spent
  have covered := firstFree_exhausted used candidate 0 used.length spent
  have distinct : ((List.range (used.length + 1)).map (numbered candidate)).Nodup :=
    List.Nodup.map (fun left right same => numbered_injective candidate left right same)
      List.nodup_range
  have inside : (List.range (used.length + 1)).map (numbered candidate) ⊆ used := by
    intro name member
    obtain ⟨step, bounded, rfl⟩ := List.mem_map.mp member
    have tried := covered step (by have := List.mem_range.mp bounded; omega)
    rwa [Nat.zero_add] at tried
  have length := (List.subperm_of_subset distinct inside).length_le
  simp only [List.length_map, List.length_range] at length
  omega

/-- A search ends on a numbering of the candidate. -/
theorem firstFree_numbered (used : List String) (candidate : String) (number attempts : Nat) :
    ∃ index, firstFree used candidate number attempts = numbered candidate index := by
  induction attempts generalizing number with
  | zero => exact ⟨number, rfl⟩
  | succ attempts inductionHypothesis =>
    rw [firstFree]
    split
    · exact inductionHypothesis (number + 1)
    · exact ⟨number, rfl⟩

end FieldName

/-- A name given out is new for its file and none of the names to be avoided. The registry grows by
exactly this name. -/
theorem NameRegistry.give_exact (registry : NameRegistry) (file base ending : String)
    (taken : List String) :
    (registry.give file base ending taken).1 ∉ registry.namesOf file ∧
      (registry.give file base ending taken).1 ∉ taken ∧
      (registry.give file base ending taken).2.given =
        registry.given ++ [(file, (registry.give file base ending taken).1)] := by
  have unused := FieldName.fresh_unused (registry.namesOf file ++ taken) (base ++ ending)
  rw [List.mem_append, not_or] at unused
  exact ⟨unused.1, unused.2, rfl⟩

end TypedDefaults
