import TypedDefaults.Java.ClassType

/-!
# Java types

The declared types that the front end supplies: primitive keywords, classes,
applications of a generic class, and arrays. Equality is decided by a Boolean
comparison that is proved to be equality.
-/

namespace TypedDefaults.Java

/-- A declared type. -/
inductive JavaType where
  | primitive (keyword : String)
  | named (type : ClassType)
  | generic (base : ClassType) (arguments : List JavaType)
  | array (element : JavaType)
  deriving Repr, Inhabited

namespace JavaType

mutual

/-- The two types are equal. -/
def same : JavaType → JavaType → Bool
  | primitive keyword, primitive other => keyword = other
  | named type, named other => type = other
  | generic base arguments, generic other others => base = other && sameAll arguments others
  | array element, array other => same element other
  | _, _ => false

/-- The two lists of types are equal. -/
def sameAll : List JavaType → List JavaType → Bool
  | [], [] => true
  | type :: rest, other :: others => same type other && sameAll rest others
  | _, _ => false

end

mutual

/-- The comparison of types is equality. -/
theorem same_iff : ∀ type other : JavaType, same type other = true ↔ type = other
  | primitive _, other => by cases other <;> simp [same]
  | named _, other => by cases other <;> simp [same]
  | generic _ arguments, other => by cases other <;> simp [same, sameAll_iff arguments]
  | array element, other => by cases other <;> simp [same, same_iff element]

/-- The comparison of lists of types is equality. -/
theorem sameAll_iff : ∀ types others : List JavaType, sameAll types others = true ↔ types = others
  | [], others => by cases others <;> simp [sameAll]
  | type :: rest, others => by
    cases others <;> simp [sameAll, same_iff type, sameAll_iff rest]

end

instance : DecidableEq JavaType := fun type other => decidable_of_iff _ (same_iff type other)

/-- The class that the type is, if it is a plain class. -/
def class? : JavaType → Option ClassType
  | named type => some type
  | _ => none

/-- The class of strings. -/
def string : JavaType := named (.topLevel "java.lang.String")

/-- The type of string arrays. -/
def stringArray : JavaType := array string

end JavaType

end TypedDefaults.Java
