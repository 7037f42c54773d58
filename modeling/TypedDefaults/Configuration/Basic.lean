import TypedDefaults.Text.Parts

/-!
# Configuration

What a run works on and how: the annotation and the attribute to be migrated,
the family of typed holders, and the switches. The number of workers says how
many files may be worked on at once; it never changes a result.
-/

namespace TypedDefaults

/-- The configuration of a run. -/
structure Configuration where
  attributeHolder : String := "x.y.z.Property"
  attributeName : String := "defaultValue"
  valueHolder : String := "x.y.z.DefaultValue"
  inlineContainerLiterals : Bool := true
  emitStringHolder : Bool := false
  addImports : Bool := true
  requireHolderUsage : Bool := true
  workers : Int := 1
  deriving DecidableEq, Repr, Inhabited

/-- The holder family as written in companions. -/
def Configuration.valueHolderName (configuration : Configuration) : String :=
  Text.afterLast '.' configuration.valueHolder

end TypedDefaults
