/-!
# Collecting problems

Reading a document or a configuration reports every problem it has, each with
the place where it was found. A reader gives a value or a list of problems; two
readers side by side give both values or the problems of both, those of the
first one in front. Readers are written without knowing where they stand: a
place is added step by step on the way out.
-/

namespace TypedDefaults

/-- A step on the way to a place: a named part or a position in a list. -/
inductive Step where
  | name (name : String)
  | index (position : Nat)
  deriving DecidableEq, Repr, Inhabited

/-- What is wrong at a place. -/
inductive Problem where
  | invalidJson
  | notAnObject
  | notANode
  | noTag
  | unknownTag
  | wrongTag
  | missing
  | notAString
  | notAList
  | notABoolean
  | unreadableBoolean
  | notAnInteger
  | unreadableInteger
  | oversizedInteger
  | fractional
  | notFinite
  | belowMinimum
  | refused (message : String)
  deriving DecidableEq, Repr, Inhabited

/-- A problem and its place, outermost step first. -/
structure Issue where
  place : List Step
  problem : Problem
  deriving DecidableEq, Repr, Inhabited

/-- A value, or the problems that stand in its way. -/
inductive Checked (α : Type) where
  | valid (value : α)
  | invalid (issues : List Issue)
  deriving Inhabited

namespace Checked

variable {α β : Type}

/-- A single problem at the place where the reader stands. -/
def problem (problem : Problem) : Checked α := .invalid [⟨[], problem⟩]

/-- The problems, none for a value. -/
def issues : Checked α → List Issue
  | valid _ => []
  | invalid issues => issues

/-- The value, if there is one. -/
def value? : Checked α → Option α
  | valid value => some value
  | invalid _ => none

/-- Both values, or the problems of both. -/
def both : Checked α → Checked β → Checked (α × β)
  | valid first, valid second => .valid (first, second)
  | first, second => .invalid (first.issues ++ second.issues)

/-- The value changed by a function. -/
def map (function : α → β) : Checked α → Checked β
  | valid value => .valid (function value)
  | invalid issues => .invalid issues

instance : Functor Checked := { map := map }

instance : Applicative Checked where
  pure := valid
  seq function argument := (function.both (argument ())).map fun (f, x) => f x

/-- Problems one step further in. -/
def under (step : Step) : Checked α → Checked α
  | valid value => .valid value
  | invalid issues => .invalid (issues.map fun issue => { issue with place := step :: issue.place })

/-- The values of a list of readers, or the problems of all. The readers stand at the positions from
`position` on. -/
def sequenceFrom (position : Nat) : List (Checked α) → Checked (List α)
  | [] => .valid []
  | first :: rest =>
    ((first.under (.index position)).both (sequenceFrom (position + 1) rest)).map
      fun (value, values) =>
      value :: values

/-- The values of a list of readers, each at its position. -/
def sequence (readers : List (Checked α)) : Checked (List α) := sequenceFrom 0 readers

end Checked

end TypedDefaults
