import TypedDefaults.Decimal.Binary64

/-!
# JSON values

Objects keep their fields in the order of the document, repeated names
included; looking a name up finds the last field of that name. Whole numbers
are exact, numbers with a fraction or an exponent are binary floating point.
-/

namespace TypedDefaults

/-- A JSON value. -/
inductive Json where
  | null
  | boolean (value : Bool)
  | integer (value : Int)
  | decimal (value : Binary64)
  | string (value : String)
  | array (elements : List Json)
  | object (fields : List (String × Json))
  deriving Inhabited

namespace Json

/-- The last value with a name, if there is one. -/
def lookup? (name : String) : List (String × Json) → Option Json
  | [] => none
  | (key, value) :: rest =>
    match lookup? name rest with
    | some later => some later
    | none => if key = name then some value else none

/-- The value of a field of an object. -/
def field? (name : String) : Json → Option Json
  | object fields => lookup? name fields
  | _ => none

/-- A value found by name is one of the fields. -/
theorem mem_of_lookup? {name : String} {value : Json} {fields : List (String × Json)}
    (found : lookup? name fields = some value) : (name, value) ∈ fields := by
  induction fields with
  | nil => simp [lookup?] at found
  | cons field rest hypothesis =>
    obtain ⟨key, here⟩ := field
    simp only [lookup?] at found
    split at found
    · rename_i later foundLater
      simp only [Option.some.injEq] at found
      exact List.mem_cons_of_mem _ (hypothesis (by rw [foundLater, found]))
    · split at found
      · rename_i same
        simp only [Option.some.injEq] at found
        simp [same, found]
      · simp at found

/-- A value found by name is smaller than the list of fields. -/
theorem sizeOf_lookup? {name : String} {value : Json} {fields : List (String × Json)}
    (found : lookup? name fields = some value) : sizeOf value < sizeOf fields := by
  have smaller := List.sizeOf_lt_of_mem (mem_of_lookup? found)
  have part : sizeOf value < sizeOf (name, value) := by
    simp only [Prod.mk.sizeOf_spec]; omega
  omega

/-- A field of an object is smaller than the object. -/
theorem sizeOf_field? {name : String} {value json : Json} (found : field? name json = some value) :
    sizeOf value < sizeOf json := by
  cases json with
  | object fields =>
    have smaller := sizeOf_lookup? found
    simp only [object.sizeOf_spec]
    omega
  | _ => simp [field?] at found

end Json

end TypedDefaults
