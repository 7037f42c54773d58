import TypedDefaults.Text.Parts

/-!
# Class types

A class, interface or enum is known by its qualified name and the qualified
names of the classes around it. Enclosure is all that navigation needs: a
class sees what its enclosing classes declare, and it can be named from
anywhere in its file by the simple names on the way in from the outermost one.
-/

namespace TypedDefaults.Java

/-- A class type with the qualified names of the classes around it, nearest first. -/
structure ClassType where
  qualifiedName : String
  enclosing : List String
  deriving DecidableEq, Repr, Inhabited

namespace ClassType

/-- A class that no other class encloses. -/
def topLevel (qualifiedName : String) : ClassType := ⟨qualifiedName, []⟩

/-- The class immediately around a class. -/
def owner? (type : ClassType) : Option ClassType :=
  match type.enclosing with
  | [] => none
  | nearest :: others => some ⟨nearest, others⟩

/-- The class with a name and enclosing class. -/
def within (qualifiedName : String) : Option ClassType → ClassType
  | none => ⟨qualifiedName, []⟩
  | some owner => ⟨qualifiedName, owner.qualifiedName :: owner.enclosing⟩

/-- The last segment of the qualified name. -/
def simpleName (type : ClassType) : String := Text.afterLast '.' type.qualifiedName

/-- The classes of a list of names, each enclosed by the names after it. -/
def ofNames : List String → List ClassType
  | [] => []
  | name :: around => ⟨name, around⟩ :: ofNames around

/-- The class itself, then the classes around it, nearest first. -/
def chain (type : ClassType) : List ClassType := ofNames (type.qualifiedName :: type.enclosing)

/-- The name by which the class is reached from anywhere in its file: the simple names from the
outermost class inwards. -/
def canonicalName (type : ClassType) : String :=
  Text.join "." (type.chain.reverse.map simpleName)

/-- The class is the given one or encloses it. Classes are compared by qualified name. -/
def isSameOrEnclosing (type scope : ClassType) : Bool :=
  scope.chain.any fun around => around.qualifiedName = type.qualifiedName

/-- The class is the given one or encloses it, where both are known; otherwise that is unknown. -/
def isSameOrEnclosing? : Option ClassType → Option ClassType → Option Bool
  | some type, some scope => some (type.isSameOrEnclosing scope)
  | _, _ => none

/-- The package part of a qualified name, or the whole name where it has no dot. -/
def packageName (qualifiedName : String) : String := Text.beforeLast '.' qualifiedName

/-- The import name that covers all classes of a class's package. -/
def wildcard (qualifiedName : String) : String := packageName qualifiedName ++ ".*"

@[simp] theorem owner?_within (qualifiedName : String) (owner : Option ClassType) :
    (within qualifiedName owner).owner? = owner := by
  cases owner <;> rfl

@[simp] theorem chain_within_some (qualifiedName : String) (owner : ClassType) :
    (within qualifiedName (some owner)).chain = within qualifiedName (some owner) :: owner.chain :=
  rfl

/-- A class is the first of its own chain. -/
theorem mem_chain (type : ClassType) : type ∈ type.chain := List.mem_cons_self

/-- A class is the same as itself. -/
@[simp] theorem isSameOrEnclosing_self (type : ClassType) : type.isSameOrEnclosing type = true := by
  simp only [isSameOrEnclosing, List.any_eq_true, decide_eq_true_eq]
  exact ⟨type, type.mem_chain, rfl⟩

end ClassType

end TypedDefaults.Java
