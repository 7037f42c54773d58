import Mathlib.Data.List.Nodup
import TypedDefaults.Proofs.Depth

/-!
# The schema of tree documents

Each class of nodes declares fields by name. A rule says what may stand in the
place of a field's value, and which value the field has where it is left out. The
tag of a node is a field too; it may be left out where the slot is for nodes of
one class. Two documents are revisions of each other if their nodes differ only
in the order of fields, in fields that have their default, and in scalars under
names that are not declared.
-/

namespace TypedDefaults

/-- The value is neither an array nor an object. -/
def Json.isScalar : Json → Bool
  | array _ => false
  | object _ => false
  | _ => true

namespace Document

/-- The classes of nodes. -/
inductive NodeClass where
  | primitive
  | classType
  | generic
  | arrayType
  | symbol
  | literal
  | identifier
  | fieldAccess
  | call
  | arrayInitializer
  | assignment
  | annotationUse
  | field
  | method
  | classDeclaration
  | importEntry
  | unit
  deriving DecidableEq, Repr, Inhabited

/-- What may stand in the place of a value: no node, a node of one class, a node of one of several
classes, or a list of these. -/
inductive Slot where
  | plain
  | own (node : NodeClass)
  | chosen (nodes : List NodeClass)
  | list (slot : Slot)
  deriving DecidableEq, Repr, Inhabited

/-- A declared field: its name, the slot for its value, and the value that it has where it is left
out, if it may be. -/
structure FieldRule where
  name : String
  slot : Slot
  default : Option Json
  deriving Inhabited

namespace FieldRule

/-- A field that must be present. -/
def needed (name : String) (slot : Slot) : FieldRule := ⟨name, slot, none⟩

/-- A field that is null where it is left out. -/
def absent (name : String) (slot : Slot) : FieldRule := ⟨name, slot, some .null⟩

/-- A list that is empty where it is left out. -/
def listed (name : String) (slot : Slot) : FieldRule := ⟨name, .list slot, some (.array [])⟩

end FieldRule

namespace NodeClass

/-- The tag of a class. -/
def tag : NodeClass → String
  | primitive => "primitive"
  | classType => "class"
  | generic => "parameterized"
  | arrayType => "array"
  | symbol => "variable"
  | literal => "literal"
  | identifier => "identifier"
  | fieldAccess => "field_access"
  | call => "method_invocation"
  | arrayInitializer => "array_initializer"
  | assignment => "assignment"
  | annotationUse => "annotation"
  | field => "field"
  | method => "method"
  | classDeclaration => "class_declaration"
  | importEntry => "import"
  | unit => "compilation_unit"

/-- The classes of types. -/
def types : List NodeClass := [primitive, classType, generic, arrayType]

/-- The classes of expressions. -/
def expressions : List NodeClass :=
  [literal, identifier, fieldAccess, call, arrayInitializer, assignment]

/-- The classes of members. -/
def members : List NodeClass := [field, method, classDeclaration]

open FieldRule in
/-- The fields of a class, in the order in which they are read. -/
def rules : NodeClass → List FieldRule
  | primitive => [needed "keyword" .plain]
  | classType => [needed "fqn" .plain, absent "owner" (.own classType)]
  | generic => [needed "base" (.own classType), listed "parameters" (.chosen types)]
  | arrayType => [needed "element" (.chosen types)]
  | symbol =>
    [needed "owner" (.own classType), needed "name" .plain, absent "type" (.chosen types)]
  | literal => [needed "value_source" .plain, absent "type" (.chosen types)]
  | identifier =>
    [needed "name" .plain, absent "field_type" (.own symbol), absent "type" (.chosen types)]
  | fieldAccess =>
    [needed "target" (.chosen expressions), needed "name" (.own identifier),
      absent "type" (.chosen types)]
  | call =>
    [needed "name" .plain, absent "select" (.chosen expressions),
      listed "arguments" (.chosen expressions), absent "type" (.chosen types)]
  | arrayInitializer => [listed "elements" (.chosen expressions)]
  | assignment => [needed "variable" (.own identifier), needed "value" (.chosen expressions)]
  | annotationUse =>
    [needed "annotation_type" (.own classType), needed "name" .plain,
      absent "arguments" (.list (.chosen expressions))]
  | field =>
    [needed "name" .plain, absent "type" (.chosen types), listed "modifiers" .plain,
      listed "leading_annotations" (.own annotationUse), absent "initializer" (.chosen expressions)]
  | method =>
    [needed "name" .plain, absent "return_type" (.chosen types), listed "modifiers" .plain,
      listed "leading_annotations" (.own annotationUse), listed "parameters" .plain,
      listed "body" .plain]
  | classDeclaration =>
    [needed "name" .plain, needed "type" (.own classType), listed "modifiers" .plain,
      listed "leading_annotations" (.own annotationUse), listed "body" (.chosen members)]
  | importEntry => [needed "fqn" .plain, ⟨"static", .plain, some (.boolean false)⟩]
  | unit =>
    [needed "source_path" .plain, absent "package" .plain, listed "imports" (.own importEntry),
      listed "classes" (.own classDeclaration)]

/-- The declared fields and the tag, which may be left out in a slot for the class alone. -/
def declared (alone : Bool) (node : NodeClass) : List FieldRule :=
  ⟨"node", .plain, if alone then some (.string node.tag) else none⟩ :: node.rules

/-- No class declares a name twice. -/
theorem names_nodup (alone : Bool) (node : NodeClass) :
    ((node.declared alone).map FieldRule.name).Nodup := by
  cases node <;> cases alone <;> decide

end NodeClass

mutual

/-- A value and what may stand in its place in a slot: the same value, a list of such values, or a
node of the class with revised fields. In a slot for several classes, the tag is that of one of
them. -/
inductive Revised : Slot → Json → Json → Prop where
  | same (slot : Slot) (json : Json) : Revised slot json json
  | elements (slot : Slot) (elements others : List Json)
      (each : RevisedElements slot elements others) :
      Revised (.list slot) (.array elements) (.array others)
  | own (node : NodeClass) (json other : Json)
      (fields : RevisedObject (node.declared true) json other) : Revised (.own node) json other
  | chosen (nodes : List NodeClass) (node : NodeClass) (json other : Json) (among : node ∈ nodes)
      (tagged : json.field? "node" = some (.string node.tag))
      (fields : RevisedObject (node.declared false) json other) :
      Revised (.chosen nodes) json other

/-- Values one by one, each with what may stand in its place. -/
inductive RevisedElements : Slot → List Json → List Json → Prop where
  | nil (slot : Slot) : RevisedElements slot [] []
  | cons (slot : Slot) (element other : Json) (elements others : List Json)
      (head : Revised slot element other) (tail : RevisedElements slot elements others) :
      RevisedElements slot (element :: elements) (other :: others)

/-- An object whose names are all different, and one with its fields in any order, some of them
revised, without some that have their default, and with scalars under names that are not
declared. -/
inductive RevisedObject : List FieldRule → Json → Json → Prop where
  | edited (rules : List FieldRule)
      (fields others kept revised dropped added : List (String × Json))
      (apart : (fields.map Prod.fst).Nodup) (before : fields.Perm (kept ++ dropped))
      (after : others.Perm (revised ++ added)) (inside : RevisedFields rules kept revised)
      (defaults : ∀ field ∈ dropped, ∃ rule ∈ rules,
        rule.name = field.1 ∧ rule.default = some field.2)
      (foreign : ∀ field ∈ added, (∀ rule ∈ rules, rule.name ≠ field.1) ∧ field.2.isScalar = true) :
      RevisedObject rules (.object fields) (.object others)

/-- Fields one by one, each kept as it is or, if it is declared, revised in its value. -/
inductive RevisedFields : List FieldRule → List (String × Json) → List (String × Json) → Prop where
  | nil (rules : List FieldRule) : RevisedFields rules [] []
  | kept (rules : List FieldRule) (field : String × Json) (fields others : List (String × Json))
      (tail : RevisedFields rules fields others) :
      RevisedFields rules (field :: fields) (field :: others)
  | revised (rules : List FieldRule) (rule : FieldRule) (value other : Json)
      (fields others : List (String × Json)) (declared : rule ∈ rules)
      (head : Revised rule.slot value other) (tail : RevisedFields rules fields others) :
      RevisedFields rules ((rule.name, value) :: fields) ((rule.name, other) :: others)

end

end Document

namespace Json

variable {name : String} {value : Json} {fields : List (String × Json)}

/-- Where a name is not found, no field has it. -/
theorem not_mem_of_lookup? (missing : lookup? name fields = none) (value : Json) :
    (name, value) ∉ fields := by
  induction fields with
  | nil => simp
  | cons field rest inductionHypothesis =>
    obtain ⟨key, here⟩ := field
    rw [lookup?] at missing
    split at missing
    · cases missing
    · rename_i later
      rw [ite_eq_right_iff] at missing
      intro inside
      rcases List.mem_cons.mp inside with first | behind
      · obtain ⟨rfl, rfl⟩ := Prod.mk.inj first
        cases missing rfl
      · exact inductionHypothesis later behind

/-- The only value under a name is found. -/
theorem lookup?_of_only (inside : (name, value) ∈ fields)
    (only : ∀ other, (name, other) ∈ fields → other = value) :
    lookup? name fields = some value := by
  cases found : lookup? name fields with
  | none => exact absurd inside (not_mem_of_lookup? found value)
  | some other => rw [only other (mem_of_lookup? found)]

/-- Where names are all different, a name has one value. -/
theorem value_unique (apart : (fields.map Prod.fst).Nodup) (inside : (name, value) ∈ fields) :
    ∀ other, (name, other) ∈ fields → other = value := by
  intro other among
  have same : (name, other) = (name, value) := List.inj_on_of_nodup_map apart among inside rfl
  exact (Prod.mk.inj same).2

/-- Where no field has a name, it is not found. -/
theorem lookup?_of_not_mem (missing : ∀ value, (name, value) ∉ fields) :
    lookup? name fields = none := by
  cases found : lookup? name fields with
  | none => rfl
  | some value => exact absurd (mem_of_lookup? found) (missing value)

end Json

namespace Document

/-- What is found under a declared name in an object and in its revision: values of which one is the
other revised, nothing, or the default in the one and nothing in the other. -/
inductive FieldRule.Found (rule : FieldRule) (json other : Json) : Prop where
  | both (value revised : Json) (before : json.field? rule.name = some value)
      (after : other.field? rule.name = some revised) (inside : Revised rule.slot value revised)
  | neither (before : json.field? rule.name = none) (after : other.field? rule.name = none)
  | dropped (value : Json) (before : json.field? rule.name = some value)
      (default : rule.default = some value) (after : other.field? rule.name = none)

namespace RevisedFields

variable {rules : List FieldRule} {fields others : List (String × Json)}

/-- Revised fields have the names that they had. -/
theorem names (revised : RevisedFields rules fields others) :
    others.map Prod.fst = fields.map Prod.fst := by
  induction fields generalizing others with
  | nil =>
    cases revised
    rfl
  | cons field rest inductionHypothesis =>
    cases revised with
    | kept _ _ _ _ tail => rw [List.map_cons, List.map_cons, inductionHypothesis tail]
    | revised _ rule _ _ _ _ _ _ tail =>
      rw [List.map_cons, List.map_cons, inductionHypothesis tail]

/-- Each of the revised fields comes of a field, which it is or of which it is a revision. -/
theorem origin (revised : RevisedFields rules fields others) :
    ∀ field ∈ others, ∃ value, (field.1, value) ∈ fields ∧
      (field.2 = value ∨
        ∃ rule ∈ rules, rule.name = field.1 ∧ Revised rule.slot value field.2) := by
  induction fields generalizing others with
  | nil =>
    cases revised
    simp
  | cons first rest inductionHypothesis =>
    cases revised with
    | kept _ _ _ _ tail =>
      refine List.forall_mem_cons.mpr ⟨⟨first.2, List.mem_cons_self, .inl rfl⟩, ?_⟩
      intro field inside
      obtain ⟨value, before, origin⟩ := inductionHypothesis tail field inside
      exact ⟨value, List.mem_cons_of_mem _ before, origin⟩
    | revised _ rule value other _ _ declared head tail =>
      refine List.forall_mem_cons.mpr
        ⟨⟨value, List.mem_cons_self, .inr ⟨rule, declared, rfl, head⟩⟩, ?_⟩
      intro field inside
      obtain ⟨value, before, origin⟩ := inductionHypothesis tail field inside
      exact ⟨value, List.mem_cons_of_mem _ before, origin⟩

end RevisedFields

namespace RevisedObject

variable {rules : List FieldRule} {json other : Json}

/-- No field under a declared name was added, so a revision has one value under it. -/
theorem lookup?_declared {others : List (String × Json)}
    (revision : RevisedObject rules json (.object others)) {rule : FieldRule}
    (declared : rule ∈ rules) {value : Json} (inside : (rule.name, value) ∈ others) :
    Json.lookup? rule.name others = some value := by
  obtain ⟨_, fields, _, kept, revised, dropped, added, apart, before, after, each, _, foreign⟩ :=
    revision
  have old (value : Json) (among : (rule.name, value) ∈ others) :
      (rule.name, value) ∈ revised := by
    rcases List.mem_append.mp (after.mem_iff.mp among) with here | new
    · exact here
    · exact absurd rfl ((foreign _ new).1 rule declared)
  have apartParts := (before.map Prod.fst).nodup_iff.mp apart
  rw [List.map_append, List.nodup_append, ← each.names] at apartParts
  exact Json.lookup?_of_only inside fun another among =>
    Json.value_unique apartParts.1 (old value inside) another (old another among)

/-- Each field of a revision is a scalar or comes of a field, which it is or of which it is a
revision. -/
theorem origin {fields others : List (String × Json)}
    (revision : RevisedObject rules (.object fields) (.object others)) :
    ∀ field ∈ others, field.2.isScalar = true ∧ (∀ rule ∈ rules, rule.name ≠ field.1) ∨
      ∃ value, (field.1, value) ∈ fields ∧
        (field.2 = value ∨
          ∃ rule ∈ rules, rule.name = field.1 ∧ Revised rule.slot value field.2) := by
  obtain ⟨_, _, _, kept, revised, dropped, added, _, before, after, each, _, foreign⟩ := revision
  intro field inside
  rcases List.mem_append.mp (after.mem_iff.mp inside) with old | new
  · obtain ⟨value, source, related⟩ := each.origin field old
    exact .inr ⟨value, before.mem_iff.mpr (List.mem_append_left dropped source), related⟩
  · exact .inl (foreign field new).symm

/-- What is found in an object and in its revision under each of the declared names. -/
theorem found (distinct : (rules.map FieldRule.name).Nodup)
    (revision : RevisedObject rules json other) : ∀ rule ∈ rules, rule.Found json other := by
  intro rule declared
  have whole := revision
  obtain ⟨_, fields, others, kept, revised, dropped, added, apart, before, after, each, defaults,
    foreign⟩ := revision
  have ruled (another : FieldRule) (among : another ∈ rules) (same : another.name = rule.name) :
      another = rule := List.inj_on_of_nodup_map distinct among declared same
  have related (source result : Json) (here : (rule.name, source) ∈ fields)
      (there : (rule.name, result) ∈ others) : Revised rule.slot source result := by
    rcases whole.origin _ there with ⟨_, foreign⟩ | ⟨value, origin, same | related⟩
    · exact absurd rfl (foreign rule declared)
    · obtain rfl := Json.value_unique apart here value origin
      obtain rfl : result = value := same
      exact .same rule.slot result
    · obtain rfl := Json.value_unique apart here value origin
      obtain ⟨another, among, same, related⟩ := related
      obtain rfl := ruled another among same
      exact related
  by_cases present : ∃ value, (rule.name, value) ∈ fields
  · obtain ⟨value, here⟩ := present
    have found : (Json.object fields).field? rule.name = some value :=
      Json.lookup?_of_only here (Json.value_unique apart here)
    by_cases remains : ∃ result, (rule.name, result) ∈ others
    · obtain ⟨result, there⟩ := remains
      exact .both value result found (whole.lookup?_declared declared there)
        (related value result here there)
    · have goes : (rule.name, value) ∈ dropped := by
        refine (List.mem_append.mp (before.mem_iff.mp here)).resolve_left fun stays => remains ?_
        have named : rule.name ∈ revised.map Prod.fst := each.names ▸ List.mem_map_of_mem stays
        obtain ⟨⟨_, result⟩, among, rfl⟩ := List.mem_map.mp named
        exact ⟨result, after.mem_iff.mpr (List.mem_append_left added among)⟩
      obtain ⟨another, among, same, default⟩ := defaults _ goes
      obtain rfl := ruled another among same
      exact .dropped value found default
        (Json.lookup?_of_not_mem fun result there => remains ⟨result, there⟩)
  · refine .neither (Json.lookup?_of_not_mem fun value here => present ⟨value, here⟩)
      (Json.lookup?_of_not_mem fun result there => ?_)
    rcases whole.origin _ there with ⟨_, foreign⟩ | ⟨value, origin, _⟩
    · exact absurd rfl (foreign rule declared)
    · exact present ⟨value, origin⟩

end RevisedObject

end Document

namespace Json

/-- An object with fields nests one deeper than they do. -/
theorem nesting_object {fields : List (String × Json)} (nonempty : fields ≠ []) :
    (object fields).nesting = nestingOfFields fields + 1 := by
  obtain ⟨⟨name, value⟩, rest, rfl⟩ := List.exists_cons_of_ne_nil nonempty
  rw [nesting, nestingOfFields]

/-- An array with elements nests one deeper than they do. -/
theorem nesting_array {elements : List Json} (nonempty : elements ≠ []) :
    (array elements).nesting = nestingOfElements elements + 1 := by
  obtain ⟨first, rest, rfl⟩ := List.exists_cons_of_ne_nil nonempty
  rw [nesting, nestingOfElements]

/-- Scalars do not nest. -/
theorem nesting_of_isScalar {json : Json} (scalar : json.isScalar = true) : json.nesting = 0 := by
  cases json with
  | array elements => cases scalar
  | object fields => cases scalar
  | _ => rfl

end Json

namespace Document

/-- A revision of an object that is not empty nests no deeper than the object, if what is found
under the declared names does not. -/
theorem RevisedObject.nesting_le {rules : List FieldRule} {json other : Json}
    (revision : RevisedObject rules json other) (nonempty : json ≠ .object [])
    (bounded : ∀ rule ∈ rules, ∀ value result, json.field? rule.name = some value →
      other.field? rule.name = some result → result.nesting ≤ value.nesting) :
    other.nesting ≤ json.nesting := by
  have whole := revision
  obtain ⟨_, fields, others, _, _, _, _, apart, _⟩ := revision
  have filled : fields ≠ [] := fun empty => nonempty (congrArg Json.object empty)
  have each : ∀ field ∈ fields, field.2.nesting ≤ Json.nestingOfFields fields :=
    (Json.nestingOfFields_le_iff fields _).mp (Nat.le_refl _)
  rw [Json.nesting_object filled]
  by_cases empty : others = []
  · rw [empty]
    exact Nat.zero_le _
  · rw [Json.nesting_object empty, Nat.succ_le_succ_iff, Json.nestingOfFields_le_iff]
    intro field inside
    rcases whole.origin field inside with ⟨scalar, _⟩ | ⟨value, origin, same | related⟩
    · rw [Json.nesting_of_isScalar scalar]
      exact Nat.zero_le _
    · rw [same]
      exact each _ origin
    · obtain ⟨rule, declared, named, _⟩ := related
      have before : (Json.object fields).field? rule.name = some value := by
        rw [← named] at origin
        exact Json.lookup?_of_only origin (Json.value_unique apart origin)
      have there : (rule.name, field.2) ∈ others := by
        rw [named]
        exact inside
      have after : (Json.object others).field? rule.name = some field.2 :=
        whole.lookup?_declared declared there
      exact Nat.le_trans (bounded rule declared value field.2 before after) (each _ origin)

end Document

end TypedDefaults
