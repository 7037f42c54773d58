import TypedDefaults.Java.Expression

/-!
# Splitting container literals

A container is written as one string with commas. Splitting keeps leading and
inner empty parts and drops the trailing ones; a text without separator is its
own only part, even when it is empty.
-/

namespace TypedDefaults.Literal

open Java

/-- The text inside a string token; other tokens are their own text. -/
def unquote (token : String) : String :=
  if Expression.isStringToken token then String.ofList (token.toList.tail.dropLast) else token

/-- The parts without the empty ones at the end. -/
def withoutTrailingEmpty (parts : List (List Char)) : List (List Char) :=
  (parts.reverse.dropWhile List.isEmpty).reverse

/-- Splits at a non-empty separator. -/
def splitCharacters (separator text : List Char) : List (List Char) :=
  match Text.parts separator text with
  | [only] => [only]
  | parts => withoutTrailingEmpty parts

/-- The separator must not be empty. -/
inductive SplitError where
  | emptySeparator
  deriving DecidableEq, Repr, Inhabited

/-- The text of the error. -/
def SplitError.message : SplitError → String
  | emptySeparator => "empty separator"

/-- Splits a text at a separator. -/
def split (separator text : String) : Except SplitError (List String) :=
  if separator.isEmpty then .error .emptySeparator
  else .ok ((splitCharacters separator.toList text.toList).map String.ofList)

/-- The parts of a text between commas. -/
def splitAtCommas (text : String) : List String :=
  (splitCharacters [','] text.toList).map String.ofList

/-- The array of string literals that a container literal stands for. -/
def toArray (token : String) : Expression :=
  .arrayInitializer ((splitAtCommas (unquote token)).map fun part =>
    .literal ("\"" ++ part ++ "\"") none)

end TypedDefaults.Literal
