import TypedDefaults.Decimal.Binary64

/-!
# TOML values

A document is a table: names with values, in the order in which they came.
Points in time are known by their form only, because no setting takes one. Names
of several parts lead through nested tables; where they meet an array of tables
they go on in its last one.
-/

namespace TypedDefaults

/-- A TOML value. -/
inductive Toml where
  | boolean (value : Bool)
  | integer (value : Int)
  | decimal (value : Binary64)
  | string (value : String)
  | date
  | time
  | dateTime
  | array (elements : List Toml)
  | table (fields : List (String × Toml))
  deriving Inhabited

namespace Toml

/-- The names and values of a table. -/
abbrev Fields := List (String × Toml)

/-- The value of a name. -/
def find? (name : String) (fields : Fields) : Option Toml := fields.lookup name

/-- The fields with the value of a name replaced. -/
def replace (name : String) (value : Toml) : Fields → Fields
  | [] => []
  | (key, old) :: rest =>
    if key = name then (key, value) :: rest else (key, old) :: replace name value rest

/-- Arrays and tables, which nothing may be added to once they are written out. -/
def isContainer : Toml → Bool
  | array _ => true
  | table _ => true
  | _ => false

/-- Changes the table that a path leads to. Missing tables on the way are made; other values on the
way, and arrays where `entersArrays` is false, bar it. -/
def changeAt (entersArrays : Bool) (change : Fields → Option Fields) :
    List String → Fields → Option Fields
  | [], fields => change fields
  | name :: path, fields =>
    match find? name fields with
    | none =>
      (changeAt entersArrays change path []).map fun inner => fields ++ [(name, table inner)]
    | some (table inner) =>
      (changeAt entersArrays change path inner).map fun changed =>
        replace name (table changed) fields
    | some (array elements) =>
      match entersArrays, elements.getLast? with
      | true, some (table inner) =>
        (changeAt entersArrays change path inner).map fun changed =>
          replace name (array (elements.dropLast ++ [table changed])) fields
      | _, _ => none
    | some _ => none

/-- Adds a value under a name that is free. -/
def addField (name : String) (value : Toml) (fields : Fields) : Option Fields :=
  if (find? name fields).isSome then none else some (fields ++ [(name, value)])

/-- Appends an empty table to the array under a name, which is made where there is none. -/
def addTable (name : String) (fields : Fields) : Option Fields :=
  match find? name fields with
  | none => some (fields ++ [(name, array [table []])])
  | some (array elements) => some (replace name (array (elements ++ [table []])) fields)
  | some _ => none

end Toml

end TypedDefaults
