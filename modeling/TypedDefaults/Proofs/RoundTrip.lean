import TypedDefaults.CommandLine.Migration
import TypedDefaults.Proofs.Depth
import TypedDefaults.Proofs.Restoring

/-!
# Documents read back

The text of a compilation unit is read back as that unit exactly if its document
nests within the limit of the reader, whatever the indent. Scanning, assembling
and restoring each undo one stage of writing; what joins them is that written
trees hold no numbers, the only values that a reader may refuse for their length.
A trace is written in ASCII, and its text is read back as the document of the
trace, which never nests too deep.
-/

namespace TypedDefaults

open Java Json

namespace Document

/-- A node holds no numbers if its fields hold none. -/
@[simp] theorem numberFree_node_iff (tag : String) (fields : List (String × Json)) :
    NumberFree (node tag fields) ↔ ∀ field ∈ fields, NumberFree field.2 := by
  rw [node, numberFree_object_iff, List.forall_mem_append, List.forall_mem_singleton]
  exact and_iff_left (.string tag)

/-- A value that may be absent holds no numbers if the value there is holds none. -/
@[simp] theorem numberFree_optional_iff {α : Type} (write : α → Json) (option : Option α) :
    NumberFree (optional write option) ↔ ∀ value ∈ option, NumberFree (write value) := by
  cases option with
  | none => simp [optional]
  | some value => simp [optional]

/-- A written class type holds no numbers. -/
@[simp] theorem numberFree_ofClass (type : ClassType) : NumberFree (ofClass type) := by
  obtain ⟨name, enclosing⟩ := type
  induction enclosing generalizing name with
  | nil => simp [ofClass, ofClassNames]
  | cons owner around inductionHypothesis =>
    have inner : NumberFree (ofClassNames owner around) := inductionHypothesis owner
    simpa [ofClass, ofClassNames] using inner

mutual

/-- A written type holds no numbers. -/
theorem numberFree_ofType : ∀ type : JavaType, NumberFree (ofType type)
  | .primitive keyword => by simp [ofType]
  | .named type => numberFree_ofClass type
  | .generic base arguments => by simpa [ofType] using numberFree_ofTypes arguments
  | .array element => by simpa [ofType] using numberFree_ofType element

/-- Written types hold no numbers. -/
theorem numberFree_ofTypes :
    ∀ types : List JavaType, ∀ json ∈ ofTypes types, NumberFree json
  | [] => by simp [ofTypes]
  | first :: rest =>
    List.forall_mem_cons.mpr ⟨numberFree_ofType first, numberFree_ofTypes rest⟩

end

attribute [simp] numberFree_ofType

/-- A written symbol holds no numbers. -/
@[simp] theorem numberFree_ofSymbol (symbol : Symbol) : NumberFree (ofSymbol symbol) := by
  simp [ofSymbol]

/-- A written identifier holds no numbers. -/
@[simp] theorem numberFree_ofIdentifier (name : Identifier) :
    NumberFree (ofIdentifier name) := by
  simp [ofIdentifier]

mutual

/-- A written expression holds no numbers. -/
theorem numberFree_ofExpression : ∀ expression : Expression, NumberFree (ofExpression expression)
  | .literal token type => by simp [ofExpression]
  | .identifier name => numberFree_ofIdentifier name
  | .fieldAccess target name type => by
    simpa [ofExpression] using numberFree_ofExpression target
  | .call name none arguments type => by
    simpa [ofExpression, ofCall] using numberFree_ofExpressions arguments
  | .call name (some receiver) arguments type => by
    simpa [ofExpression, ofCall] using
      ⟨numberFree_ofExpression receiver, numberFree_ofExpressions arguments⟩
  | .arrayInitializer elements => by
    simpa [ofExpression] using numberFree_ofExpressions elements
  | .assignment target value => by simpa [ofExpression] using numberFree_ofExpression value

/-- Written expressions hold no numbers. -/
theorem numberFree_ofExpressions :
    ∀ expressions : List Expression, ∀ json ∈ ofExpressions expressions, NumberFree json
  | [] => by simp [ofExpressions]
  | first :: rest =>
    List.forall_mem_cons.mpr ⟨numberFree_ofExpression first, numberFree_ofExpressions rest⟩

end

attribute [simp] numberFree_ofExpression

/-- Written annotations hold no numbers. -/
@[simp] theorem numberFree_ofAnnotations (annotations : List AnnotationUse) :
    NumberFree (ofAnnotations annotations) := by
  have each (use : AnnotationUse) : NumberFree (ofAnnotationUse use) := by
    simpa [ofAnnotationUse] using fun list _ => numberFree_ofExpressions list
  simp [ofAnnotations, each]

/-- Written strings hold no numbers. -/
@[simp] theorem numberFree_strings (values : List String) : NumberFree (strings values) := by
  simp [strings]

/-- A written class holds no numbers if its members hold none. -/
theorem numberFree_ofHeader (header : ClassHeader) {body : List Json}
    (members : ∀ json ∈ body, NumberFree json) : NumberFree (ofHeader header body) := by
  simpa [ofHeader] using members

/-- A written member holds no numbers. -/
theorem numberFree_ofMember (member : Member) : NumberFree (ofMember member) := by
  induction member using Member.inductionOnMembers with
  | field declaration => simp [ofMember, ofField]
  | method declaration => simp [ofMember, ofMethod]
  | nested header body each =>
    rw [ofMember, ofMembers_eq_map]
    exact numberFree_ofHeader header (List.forall_mem_map.mpr each)

/-- A written compilation unit holds no numbers. -/
theorem numberFree_ofUnit (unit : CompilationUnit) : NumberFree (ofUnit unit) := by
  have ofClassDeclarations (declaration : ClassDeclaration) :
      NumberFree (ofClassDeclaration declaration) := by
    rw [ofClassDeclaration, ofMembers_eq_map]
    exact numberFree_ofHeader declaration.header
      (List.forall_mem_map.mpr fun member _ => numberFree_ofMember member)
  simp [ofUnit, ofImport, ofClassDeclarations]

/-- The text of a unit is read back as the unit, equal in every part and in the noted types of its
symbols, exactly if the document nests within the limit of the reader. The indent is of no account,
and a container without parts adds nothing to the depth.

Scanning gives the tokens of the document, since it holds no numbers; putting them together gives
the document, or nothing if it nests too deep; and from its document the unit is restored. -/
theorem unit_read_back_iff (indent : Nat) (unit : CompilationUnit) :
    parse (print indent unit) = .valid unit ↔ (ofUnit unit).nesting ≤ 200 := by
  have text : Json.read? (print indent unit) =
      if (ofUnit unit).nesting ≤ 200 then some (ofUnit unit) else none :=
    (numberFree_ofUnit unit).readWithin?_write {} (.lines indent)
  rw [parse, parseAs, text]
  by_cases within : (ofUnit unit).nesting ≤ 200
  · rw [if_pos within]
    exact iff_of_true (readUnit_ofUnit unit) within
  · rw [if_neg within]
    exact iff_of_false (by simp [Checked.problem]) within

/-- A unit with a resolved symbol in an annotation: a constant of a nested class, noted with the
type of a list of arrays. -/
def symbolUnit : CompilationUnit :=
  let inner : ClassType := ⟨"p.M.Levels", ["p.M"]⟩
  let low : Symbol :=
    ⟨some inner, "LOW", some (.generic (.topLevel "java.util.List") [.array .string])⟩
  let value : Expression :=
    .fieldAccess (.identifier ⟨"Levels", none, some (.named inner)⟩) ⟨"LOW", some low, none⟩ none
  let use : AnnotationUse :=
    ⟨.topLevel "x.y.z.Property", "Property", some [.assignment ⟨"defaultValue", none, none⟩ value]⟩
  ⟨"M.java", some "p", [⟨"x.y.z.Property", false⟩],
    [⟨⟨"M", .topLevel "p.M", ["public"], []⟩,
      [.method ⟨"level", none, [], [use], ["int a"], none⟩,
        .nested ⟨"Levels", inner, [], []⟩ []]⟩]⟩

/-- The unit is read back from its text with four blanks a level. -/
theorem symbolUnit_read_back :
    (ofUnit symbolUnit).nesting = 16 ∧ parse (print 4 symbolUnit) = .valid symbolUnit := by
  have nests : (ofUnit symbolUnit).nesting = 16 := by decide
  exact ⟨nests, (unit_read_back_iff 4 symbolUnit).mpr (by omega)⟩

end Document

namespace CommandLine

/-- A written record of a trace holds no numbers. -/
theorem numberFree_ofRecord (number : Nat) (record : Record) :
    NumberFree (ofRecord number record) := by
  refine .object ?_
  simp only [List.forall_mem_cons]
  refine ⟨.string _, .string _, .string _, ?parent, ?details, List.forall_mem_nil _⟩
  case parent => exact (Document.numberFree_optional_iff ..).mpr fun _ _ => .string _
  case details => exact .object (List.forall_mem_map.mpr fun _ _ => .string _)

/-- A written record nests two deep at most: it is an object with one more, of texts. -/
theorem nesting_ofRecord_le (number : Nat) (record : Record) :
    (ofRecord number record).nesting ≤ 2 := by
  refine nesting_object_le ?_
  simp only [List.forall_mem_cons]
  refine ⟨Nat.zero_le 1, Nat.zero_le 1, Nat.zero_le 1, ?parent, ?details, List.forall_mem_nil _⟩
  case parent => cases record.parent <;> exact Nat.zero_le 1
  case details => exact nesting_object_le (List.forall_mem_map.mpr fun _ _ => Nat.le_refl 0)

/-- The text of a trace is ASCII, and is read back as the document of the trace. -/
theorem traceText_read_back (trace : Trace) :
    Ascii (traceText trace).toList ∧ Json.read? (traceText trace) = some (traceDocument trace) := by
  have records : ∀ element ∈ trace.records.mapIdx ofRecord, ∃ number record,
      ofRecord number record = element := by
    intro element inside
    obtain ⟨number, below, rfl⟩ := List.mem_mapIdx.mp inside
    exact ⟨number, _, rfl⟩
  have free : NumberFree (traceDocument trace) := by
    refine .array fun element inside => ?_
    obtain ⟨number, record, rfl⟩ := records element inside
    exact numberFree_ofRecord number record
  have within : (traceDocument trace).nesting ≤ 3 := by
    refine nesting_array_le fun element inside => ?_
    obtain ⟨number, record, rfl⟩ := records element inside
    exact nesting_ofRecord_le number record
  refine ⟨free.ascii_write, ?_⟩
  have read := free.readWithin?_write {} (.asciiLines 2)
  rwa [if_pos (Nat.le_trans within (by decide))] at read

end CommandLine

end TypedDefaults
