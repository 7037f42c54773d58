/-!
# Sets of code points as sorted ranges

A character class of the Unicode standard is stored as a list of closed ranges
of code points, in increasing order and without overlap. Membership walks the
list and stops at the first range that starts after the code point, so an
absent code point costs no more than a present one.
-/

namespace TypedDefaults.Text

/-- Closed ranges of code points, lowest first. -/
abbrev CodeRanges := List (Nat × Nat)

namespace CodeRanges

/-- A code point belongs to the set when some range covers it. The search ends
at the first range that starts above the code point. -/
def contains : CodeRanges → Nat → Bool
  | [], _ => false
  | (lowest, highest) :: later, code =>
    if code < lowest then false
    else if code ≤ highest then true
    else contains later code

/-- The first code point of the range that covers `code`, if one does. -/
def start? : CodeRanges → Nat → Option Nat
  | [], _ => none
  | (lowest, highest) :: later, code =>
    if code < lowest then none
    else if code ≤ highest then some lowest
    else start? later code

/-- Finding a start and being a member are the same search. -/
theorem isSome_start? (ranges : CodeRanges) (code : Nat) :
    (ranges.start? code).isSome = ranges.contains code := by
  induction ranges with
  | nil => rfl
  | cons range later hypothesis =>
    obtain ⟨lowest, highest⟩ := range
    simp only [start?, contains]
    split
    · rfl
    · split
      · rfl
      · exact hypothesis

end CodeRanges

end TypedDefaults.Text
