import TypedDefaults.Proofs.Assembly
import TypedDefaults.Proofs.Following
import TypedDefaults.Proofs.RoundTrip
import TypedDefaults.Proofs.WholeLiterals

/-!
# Revised documents are read alike

A document that is accepted and each of its revisions stand for the same unit:
fields may come in any order, those that have their default may be left out, and
scalars may be added under names that are not declared. The lemmas follow the
readers of nodes. A revision is a document, and a text of it must still be read as
one: a number of too many digits spoils it even under a name that nothing reads.
-/

namespace TypedDefaults

open Java

namespace Document

section Types

/-- An array without elements is restored as a list without elements. -/
theorem restores_empty {α : Type} {json : Json} (read : Part json → Checked α) :
    Restores (listOf read) (.array []) [] := by
  have each : ∀ value ∈ ([] : List α), Restores read Json.null value := by simp
  exact restores_list each

/-- The fields of a class type are read of a revision. -/
theorem classFields_agrees (json other : Json)
    (found : ∀ rule ∈ NodeClass.classType.rules, rule.Found json other) :
    Agrees NodeClass.classType.rules json other (classFields json) (classFields other) := by
  simp only [NodeClass.rules, List.forall_mem_cons] at found
  obtain ⟨nameFound, ownerFound, _⟩ := found
  have ownerFollows : PartsFollow (.own .classType) (fun part : Part json => readClass part.val)
      (fun part : Part other => readClass part.val) := by
    refine whole_follow readClass fun part revised inside => ?_
    rcases inside.own_cases with rfl | revision
    · exact .refl _ _
    · exact own_follows ⟨_, List.mem_cons_self, rfl⟩ revision (classFields_agrees part.val revised)
  have name := required_agrees nameFound string_follow
  have owner := defaulted_agrees ownerFound (restores_absent _) (nullable_follow ownerFollows)
  rw [classFields, classFields]
  exact (name.map ClassType.within).seq owner
termination_by sizeOf json
decreasing_by exact part.property

/-- A class type is read of a revision. -/
theorem readClass_follows {json other : Json} (inside : Revised (.own .classType) json other) :
    Follows json other (readClass json) (readClass other) := by
  rcases inside.own_cases with rfl | revision
  · exact .refl _ _
  · exact own_follows ⟨_, List.mem_cons_self, rfl⟩ revision (classFields_agrees json other)

/-- A class type in a part is read of a revision. -/
theorem class_follow {json other : Json} :
    PartsFollow (.own .classType) (fun part : Part json => readClass part.val)
      (fun part : Part other => readClass part.val) :=
  whole_follow readClass fun _ _ inside => readClass_follows inside

/-- A type is read of a revision. -/
theorem readType_follows (json other : Json)
    (inside : Revised (.chosen NodeClass.types) json other) :
    Follows json other (readType json) (readType other) := by
  cases inside with
  | same => exact .refl _ _
  | chosen _ node _ _ among tagged revision =>
    have follow : PartsFollow (.chosen NodeClass.types) (fun part : Part json => readType part.val)
        (fun part : Part other => readType part.val) :=
      whole_follow readType fun part revised inside => readType_follows part.val revised inside
    rw [readType, readType]
    simp only [NodeClass.types, List.mem_cons, List.not_mem_nil, or_false] at among
    rcases among with rfl | rfl | rfl | rfl
    · refine chosen_follows tagged revision rfl rfl fun found => ?_
      simp only [NodeClass.rules, List.forall_mem_cons] at found
      exact (required_agrees found.1 string_follow).map JavaType.primitive
    · refine chosen_follows tagged revision rfl rfl fun found => ?_
      exact (classFields_agrees json other found).map JavaType.named
    · refine chosen_follows tagged revision rfl rfl fun found => ?_
      simp only [NodeClass.rules, List.forall_mem_cons] at found
      obtain ⟨baseFound, parametersFound, _⟩ := found
      have base := required_agrees baseFound class_follow
      have parameters := defaulted_agrees parametersFound (restores_empty _) (list_follow follow)
      exact (base.map JavaType.generic).seq parameters
    · refine chosen_follows tagged revision rfl rfl fun found => ?_
      simp only [NodeClass.rules, List.forall_mem_cons] at found
      exact (required_agrees found.1 follow).map JavaType.array
termination_by sizeOf json
decreasing_by exact part.property

/-- A type that may be null is read of a revision. -/
theorem typeField_agrees {json other : Json} {name : String}
    (found : (FieldRule.absent name (.chosen NodeClass.types)).Found json other) :
    Agrees [.absent name (.chosen NodeClass.types)] json other (typeField name json)
      (typeField name other) :=
  defaulted_agrees found (restores_absent _)
    (nullable_follow (whole_follow readType fun part revised inside =>
      readType_follows part.val revised inside))

end Types

section Expressions

/-- A symbol is read of a revision. -/
theorem readSymbol_follows {json other : Json} (inside : Revised (.own .symbol) json other) :
    Follows json other (readSymbol json) (readSymbol other) := by
  rcases inside.own_cases with rfl | revision
  · exact .refl _ _
  refine own_follows ⟨_, List.mem_cons_self, rfl⟩ revision fun found => ?_
  simp only [NodeClass.rules, List.forall_mem_cons] at found
  obtain ⟨ownerFound, nameFound, typeFound, _⟩ := found
  have owner := required_agrees ownerFound (nullable_follow class_follow)
  have name := required_agrees nameFound string_follow
  exact ((owner.map Symbol.mk).seq name).seq (typeField_agrees typeFound)

/-- The fields of an identifier are read of a revision. -/
theorem identifierFields_agrees {json other : Json}
    (found : ∀ rule ∈ NodeClass.identifier.rules, rule.Found json other) :
    Agrees NodeClass.identifier.rules json other (identifierFields json)
      (identifierFields other) := by
  simp only [NodeClass.rules, List.forall_mem_cons] at found
  obtain ⟨nameFound, symbolFound, typeFound, _⟩ := found
  have name := required_agrees nameFound string_follow
  have symbol := defaulted_agrees symbolFound (restores_absent _)
    (nullable_follow (whole_follow readSymbol fun _ _ inside => readSymbol_follows inside))
  exact ((name.map Identifier.mk).seq symbol).seq (typeField_agrees typeFound)

/-- An identifier in a part is read of a revision. -/
theorem identifier_follow {json other : Json} :
    PartsFollow (.own .identifier) (fun part : Part json => readIdentifier part.val)
      (fun part : Part other => readIdentifier part.val) := by
  refine whole_follow readIdentifier fun _ _ inside => ?_
  rcases inside.own_cases with rfl | revision
  · exact .refl _ _
  · exact own_follows ⟨_, List.mem_cons_self, rfl⟩ revision identifierFields_agrees

/-- An expression is read of a revision. -/
theorem readExpression_follows (json other : Json)
    (inside : Revised (.chosen NodeClass.expressions) json other) :
    Follows json other (readExpression json) (readExpression other) := by
  cases inside with
  | same => exact .refl _ _
  | chosen _ node _ _ among tagged revision =>
    have follow : PartsFollow (.chosen NodeClass.expressions)
        (fun part : Part json => readExpression part.val)
        (fun part : Part other => readExpression part.val) :=
      whole_follow readExpression fun part revised inside =>
        readExpression_follows part.val revised inside
    rw [readExpression, readExpression]
    simp only [NodeClass.expressions, List.mem_cons, List.not_mem_nil, or_false] at among
    rcases among with rfl | rfl | rfl | rfl | rfl | rfl
    · refine chosen_follows tagged revision rfl rfl fun found => ?_
      simp only [NodeClass.rules, List.forall_mem_cons] at found
      obtain ⟨tokenFound, typeFound, _⟩ := found
      have token := required_agrees tokenFound string_follow
      exact (token.map Expression.literal).seq (typeField_agrees typeFound)
    · refine chosen_follows tagged revision rfl rfl fun found => ?_
      exact (identifierFields_agrees found).map Expression.identifier
    · refine chosen_follows tagged revision rfl rfl fun found => ?_
      simp only [NodeClass.rules, List.forall_mem_cons] at found
      obtain ⟨targetFound, nameFound, typeFound, _⟩ := found
      have target := required_agrees targetFound follow
      have name := required_agrees nameFound identifier_follow
      exact ((target.map Expression.fieldAccess).seq name).seq (typeField_agrees typeFound)
    · refine chosen_follows tagged revision rfl rfl fun found => ?_
      simp only [NodeClass.rules, List.forall_mem_cons] at found
      obtain ⟨nameFound, receiverFound, argumentsFound, typeFound, _⟩ := found
      have name := required_agrees nameFound string_follow
      have receiver := defaulted_agrees receiverFound (restores_absent _) (nullable_follow follow)
      have arguments := defaulted_agrees argumentsFound (restores_empty _) (list_follow follow)
      exact (((name.map Expression.call).seq receiver).seq arguments).seq
        (typeField_agrees typeFound)
    · refine chosen_follows tagged revision rfl rfl fun found => ?_
      simp only [NodeClass.rules, List.forall_mem_cons] at found
      have elements := defaulted_agrees found.1 (restores_empty _) (list_follow follow)
      exact elements.map Expression.arrayInitializer
    · refine chosen_follows tagged revision rfl rfl fun found => ?_
      simp only [NodeClass.rules, List.forall_mem_cons] at found
      obtain ⟨targetFound, valueFound, _⟩ := found
      have target := required_agrees targetFound identifier_follow
      have value := required_agrees valueFound follow
      exact (target.map Expression.assignment).seq value
termination_by sizeOf json
decreasing_by exact part.property

/-- An expression in a part is read of a revision. -/
theorem expression_follow {json other : Json} :
    PartsFollow (.chosen NodeClass.expressions) (fun part : Part json => readExpression part.val)
      (fun part : Part other => readExpression part.val) :=
  whole_follow readExpression fun part revised inside =>
    readExpression_follows part.val revised inside

end Expressions

section Declarations

/-- An annotation is read of a revision. -/
theorem readAnnotationUse_follows {json other : Json}
    (inside : Revised (.own .annotationUse) json other) :
    Follows json other (readAnnotationUse json) (readAnnotationUse other) := by
  rcases inside.own_cases with rfl | revision
  · exact .refl _ _
  refine own_follows ⟨_, List.mem_cons_self, rfl⟩ revision fun found => ?_
  simp only [NodeClass.rules, List.forall_mem_cons] at found
  obtain ⟨typeFound, nameFound, argumentsFound, _⟩ := found
  have type := required_agrees typeFound class_follow
  have name := required_agrees nameFound string_follow
  have arguments := defaulted_agrees argumentsFound (restores_absent _)
    (nullable_follow (list_follow expression_follow))
  exact ((type.map AnnotationUse.mk).seq name).seq arguments

/-- A list of strings that may be left out is read of a revision. -/
theorem stringsField_agrees {json other : Json} {name : String}
    (found : (FieldRule.listed name .plain).Found json other) :
    Agrees [.listed name .plain] json other (stringsField name json) (stringsField name other) :=
  defaulted_agrees found (restores_empty _) (list_follow string_follow)

/-- The annotations of a declaration are read of a revision. -/
theorem annotationsField_agrees {json other : Json}
    (found : (FieldRule.listed "leading_annotations" (.own .annotationUse)).Found json other) :
    Agrees [.listed "leading_annotations" (.own .annotationUse)] json other (annotationsField json)
      (annotationsField other) :=
  defaulted_agrees found (restores_empty _)
    (list_follow (whole_follow readAnnotationUse fun _ _ inside =>
      readAnnotationUse_follows inside))

/-- The fields of a field declaration are read of a revision. -/
theorem fieldFields_agrees {json other : Json}
    (found : ∀ rule ∈ NodeClass.field.rules, rule.Found json other) :
    Agrees NodeClass.field.rules json other (fieldFields json) (fieldFields other) := by
  simp only [NodeClass.rules, List.forall_mem_cons] at found
  obtain ⟨nameFound, typeFound, modifiersFound, annotationsFound, initializerFound, _⟩ := found
  have name := required_agrees nameFound string_follow
  have initializer := defaulted_agrees initializerFound (restores_absent _)
    (nullable_follow expression_follow)
  exact ((((name.map FieldDeclaration.mk).seq (typeField_agrees typeFound)).seq
    (stringsField_agrees modifiersFound)).seq (annotationsField_agrees annotationsFound)).seq
    initializer

/-- The fields of a method declaration are read of a revision. -/
theorem methodFields_agrees {json other : Json}
    (found : ∀ rule ∈ NodeClass.method.rules, rule.Found json other) :
    Agrees NodeClass.method.rules json other (methodFields json) (methodFields other) := by
  simp only [NodeClass.rules, List.forall_mem_cons] at found
  obtain ⟨nameFound, typeFound, modifiersFound, annotationsFound, parametersFound, bodyFound, _⟩ :=
    found
  have name := required_agrees nameFound string_follow
  have empty : Restores (nullable (listOf (string : Part json → Checked String))) (.array [])
      (some []) :=
    restores_present (by simp) (restores_empty _)
  have body := defaulted_agrees bodyFound empty (nullable_follow (list_follow string_follow))
  exact (((((name.map MethodDeclaration.mk).seq (typeField_agrees typeFound)).seq
    (stringsField_agrees modifiersFound)).seq (annotationsField_agrees annotationsFound)).seq
    (stringsField_agrees parametersFound)).seq body

/-- The fields of a class declaration but its body are read of a revision. -/
theorem headerFields_agrees {json other : Json}
    (found : ∀ rule ∈ NodeClass.classDeclaration.rules, rule.Found json other) :
    Agrees NodeClass.classDeclaration.rules.dropLast json other (headerFields json)
      (headerFields other) := by
  simp only [NodeClass.rules, List.forall_mem_cons] at found
  obtain ⟨nameFound, typeFound, modifiersFound, annotationsFound, _⟩ := found
  have name := required_agrees nameFound string_follow
  have type := required_agrees typeFound class_follow
  exact (((name.map ClassHeader.mk).seq type).seq (stringsField_agrees modifiersFound)).seq
    (annotationsField_agrees annotationsFound)

/-- The fields of a class declaration are read of a revision if its members are. -/
theorem bodyFields_agrees {α : Type} {json other : Json} (make : ClassHeader → List Member → α)
    (found : ∀ rule ∈ NodeClass.classDeclaration.rules, rule.Found json other)
    (follow : PartsFollow (.chosen NodeClass.members) (fun part : Part json => readMember part.val)
      (fun part : Part other => readMember part.val)) :
    Agrees NodeClass.classDeclaration.rules json other
      (make <$> headerFields json <*>
        defaulted "body" json [] (listOf fun part => readMember part.val))
      (make <$> headerFields other <*>
        defaulted "body" other [] (listOf fun part => readMember part.val)) := by
  have header := headerFields_agrees found
  simp only [NodeClass.rules, List.forall_mem_cons] at found
  obtain ⟨_, _, _, _, bodyFound, _⟩ := found
  have body := defaulted_agrees bodyFound (restores_empty _) (list_follow follow)
  exact (header.map make).seq body

/-- A member is read of a revision. -/
theorem readMember_follows (json other : Json)
    (inside : Revised (.chosen NodeClass.members) json other) :
    Follows json other (readMember json) (readMember other) := by
  cases inside with
  | same => exact .refl _ _
  | chosen _ node _ _ among tagged revision =>
    rw [readMember, readMember]
    simp only [NodeClass.members, List.mem_cons, List.not_mem_nil, or_false] at among
    rcases among with rfl | rfl | rfl
    · refine chosen_follows tagged revision rfl rfl fun found => ?_
      exact (fieldFields_agrees found).map Member.field
    · refine chosen_follows tagged revision rfl rfl fun found => ?_
      exact (methodFields_agrees found).map Member.method
    · refine chosen_follows tagged revision rfl rfl fun found => ?_
      exact bodyFields_agrees Member.nested found (whole_follow readMember
        fun part revised inside => readMember_follows part.val revised inside)
termination_by sizeOf json
decreasing_by exact part.property

/-- A class declaration is read of a revision. -/
theorem readClassDeclaration_follows {json other : Json}
    (inside : Revised (.own .classDeclaration) json other) :
    Follows json other (readClassDeclaration json) (readClassDeclaration other) := by
  rcases inside.own_cases with rfl | revision
  · exact .refl _ _
  refine own_follows ⟨_, List.mem_cons_self, rfl⟩ revision fun found => ?_
  exact bodyFields_agrees ClassDeclaration.mk found (whole_follow readMember
    fun part revised inside => readMember_follows part.val revised inside)

/-- An import is read of a revision. -/
theorem readImport_follows {json other : Json} (inside : Revised (.own .importEntry) json other) :
    Follows json other (readImport json) (readImport other) := by
  rcases inside.own_cases with rfl | revision
  · exact .refl _ _
  refine own_follows ⟨_, List.mem_cons_self, rfl⟩ revision fun found => ?_
  simp only [NodeClass.rules, List.forall_mem_cons] at found
  obtain ⟨nameFound, staticFound, _⟩ := found
  have name := required_agrees nameFound string_follow
  have isStatic := defaulted_agrees staticFound (restores_truth false) truth_follow
  exact (name.map Import.mk).seq isStatic

/-- A compilation unit is read of a revision. -/
theorem readUnit_follows {json other : Json} (inside : Revised (.own .unit) json other) :
    Follows json other (readUnit json) (readUnit other) := by
  rcases inside.own_cases with rfl | revision
  · exact .refl _ _
  refine own_follows ⟨_, List.mem_cons_self, rfl⟩ revision fun found => ?_
  simp only [NodeClass.rules, List.forall_mem_cons] at found
  obtain ⟨pathFound, packageFound, importsFound, classesFound, _⟩ := found
  have path := required_agrees pathFound string_follow
  have package := defaulted_agrees packageFound (restores_absent _) (nullable_follow string_follow)
  have imports := defaulted_agrees importsFound (restores_empty _)
    (list_follow (whole_follow readImport fun _ _ inside => readImport_follows inside))
  have classes := defaulted_agrees classesFound (restores_empty _)
    (list_follow (whole_follow readClassDeclaration fun _ _ inside =>
      readClassDeclaration_follows inside))
  exact (((path.map CompilationUnit.mk).seq package).seq imports).seq classes

end Declarations

/-- A text is read as the same unit as another one whose document it revises, if its tokens are
those of the revised document.

The revision nests no deeper than a document that is accepted, so it is read as well; and what is
read of each of its nodes is what is read of the node that it revises. -/
theorem revised_read_alike {text revisedText : String} {document revised : Json}
    {unit : CompilationUnit} (read : Json.read? text = some document)
    (accepted : parse text = .valid unit) (revision : Revised (.own .unit) document revised)
    (scanned : Json.tokens? Numeral.digitLimit revisedText = some revised.tokens) :
    parse revisedText = .valid unit := by
  obtain ⟨_, within⟩ := (Json.read?_eq_some_iff text document).mp read
  have given : readUnit document = .valid unit := by
    rw [parse, parseAs, read] at accepted
    exact accepted
  obtain ⟨again, shallower⟩ := readUnit_follows revision unit given
  have readAgain : Json.read? revisedText = some revised :=
    (Json.read?_eq_some_iff revisedText revised).mpr ⟨scanned, Nat.le_trans shallower within⟩
  rw [parse, parseAs, readAgain]
  exact again

/-- The document of a unit with an import, its tags and a default written out. -/
def importDocument : Json :=
  .object
    [("source_path", .string "a"),
      ("imports", .array [.object [("fqn", .string "b"), ("static", .boolean false)]]),
      ("node", .string "compilation_unit")]

/-- The document of the unit with an import, without a tag and a default, with scalars added and its
fields in another order. -/
def plainImportDocument : Json :=
  .object
    [("line", .integer 7),
      ("imports", .array [.object [("fqn", .string "b"), ("checked", .boolean true)]]),
      ("source_path", .string "a")]

/-- The document without tag and default revises the one that has them. -/
theorem plainImportDocument_revised :
    Revised (.own .unit) importDocument plainImportDocument := by
  have staticRule : FieldRule.mk "static" .plain (some (.boolean false)) ∈
      NodeClass.importEntry.declared true := .tail _ (.tail _ (.head _))
  have importsRule : FieldRule.listed "imports" (.own .importEntry) ∈
      NodeClass.unit.declared true := .tail _ (.tail _ (.tail _ (.head _)))
  have inner : RevisedObject (NodeClass.importEntry.declared true)
      (.object [("fqn", .string "b"), ("static", .boolean false)])
      (.object [("fqn", .string "b"), ("checked", .boolean true)]) := by
    refine .edited _ _ _ [("fqn", .string "b")] [("fqn", .string "b")] [("static", .boolean false)]
      [("checked", .boolean true)] (by decide) (.refl _) (.refl _) (.kept _ _ _ _ (.nil _)) ?_ ?_
    · exact List.forall_mem_singleton.mpr ⟨_, staticRule, rfl, rfl⟩
    · exact List.forall_mem_singleton.mpr ⟨by decide, rfl⟩
  have reversed (first second third : String × Json) :
      [first, second, third].Perm ([third, second] ++ [first]) :=
    List.reverse_perm [third, second, first]
  have imports : RevisedFields (NodeClass.unit.declared true)
      [("source_path", .string "a"),
        ("imports", .array [.object [("fqn", .string "b"), ("static", .boolean false)]])]
      [("source_path", .string "a"),
        ("imports", .array [.object [("fqn", .string "b"), ("checked", .boolean true)]])] :=
    .kept _ _ _ _ (.revised _ _ _ _ _ _ importsRule
      (.elements _ _ _ (.cons _ _ _ _ _ (.own _ _ _ inner) (.nil _))) (.nil _))
  refine .own _ _ _ (.edited _ _ _ _ _ [("node", .string "compilation_unit")] [("line", .integer 7)]
    (by decide) (.refl _) (reversed _ _ _) imports ?_ ?_)
  · exact List.forall_mem_singleton.mpr ⟨_, .head _, rfl, rfl⟩
  · exact List.forall_mem_singleton.mpr ⟨by decide, rfl⟩

/-- The unit with an import is read of a text with tags and defaults and of one without. -/
theorem plainImportDocument_read_alike :
    parse (importDocument.write (.lines 2)) = .valid ⟨"a", none, [⟨"b", false⟩], []⟩ ∧
      parse (plainImportDocument.write .oneLine) = .valid ⟨"a", none, [⟨"b", false⟩], []⟩ := by
  have free : Json.NumberFree importDocument := by simp [importDocument]
  have read : Json.read? (importDocument.write (.lines 2)) = some importDocument :=
    (Json.read?_eq_some_iff _ _).mpr ⟨free.tokens?_write, by decide⟩
  have accepted : parse (importDocument.write (.lines 2)) =
      .valid ⟨"a", none, [⟨"b", false⟩], []⟩ := by
    rw [parse, parseAs, read]
    rfl
  exact ⟨accepted, revised_read_alike read accepted plainImportDocument_revised (by decide +kernel)⟩

end Document

namespace Json.Token

/-- A digit does not end a bare word. -/
theorem endsWord_of_isDigit {character : Char} (digit : character.isDigit = true) :
    endsWord character = false := by
  have other (mark : Char) (noDigit : mark.isDigit = false) : character ≠ mark := by
    rintro rfl
    simp [digit] at noDigit
  have noMark : ofMark? character = none := by
    unfold ofMark?
    split <;> first | rfl | cases digit
  simp [endsWord, isSpace, noMark, other ' ' rfl, other '\t' rfl, other '\n' rfl, other '\r' rfl,
    other '"' rfl]

/-- Digits without a leading zero are the whole part that they begin with. -/
theorem leadingWhole_digits {first : Char} {rest : List Char}
    (digits : ∀ digit ∈ first :: rest, digit.isDigit = true) (notZero : first ≠ '0') :
    Numeral.leadingWhole (first :: rest) = first :: rest := by
  have notMinus : first ≠ '-' := by
    rintro rfl
    cases digits '-' List.mem_cons_self
  have plain : Numeral.leadingWhole (first :: rest) = Numeral.plainDigits (first :: rest) := by
    unfold Numeral.leadingWhole
    split
    case h_1 minus => exact absurd (List.cons.inj minus).1 notMinus
    case h_2 => rfl
  rw [plain]
  unfold Numeral.plainDigits
  split
  case h_1 zero => exact absurd (List.cons.inj zero).1 notZero
  case h_2 => exact List.takeWhile_eq_self_iff.mpr digits

/-- A number of too many digits has no token. -/
theorem ofWord?_oversized {limit number : Nat} (positive : 0 < limit)
    (oversized : 10 ^ limit ≤ number) : ofWord? limit (Nat.toDigits 10 number) = none := by
  have long : limit < (Nat.toDigits 10 number).length := by
    have short := @Nat.length_toDigits_le_iff 10 number limit (by decide) positive
    omega
  obtain ⟨first, rest, written⟩ :=
    List.exists_cons_of_ne_nil (Nat.toDigits_ne_nil : Nat.toDigits 10 number ≠ [])
  have digits : ∀ digit ∈ Nat.toDigits 10 number, digit.isDigit = true := fun digit inside =>
    Nat.isDigit_of_mem_toDigits (by decide) (by decide) inside
  have notZero : first ≠ '0' := by
    rintro rfl
    have zero : number = 0 := Literal.head?_toDigits number (by rw [written]; rfl)
    have : 0 < 10 ^ limit := Nat.pow_pos (by decide)
    omega
  rw [written] at long digits ⊢
  have whole := leadingWhole_digits digits notZero
  have isDigit : first.isDigit = true := digits first List.mem_cons_self
  have tooLong : ¬(first :: rest).length ≤ limit := Nat.not_le.mpr long
  have noName (name : List Char) (other : name.head?.any Char.isDigit = false) :
      first :: rest ≠ name := by
    rintro rfl
    simp [isDigit] at other
  have noInteger : Numeral.plainInteger? limit (first :: rest) = none :=
    if_neg fun fits => tooLong fits.2
  rw [ofWord?, if_neg (noName _ rfl), if_neg (noName _ rfl), if_neg (noName _ rfl),
    if_neg (noName _ rfl), if_neg (noName _ rfl), if_neg (noName _ rfl), noInteger, whole]
  simp only [decide_eq_false tooLong, Bool.and_false, Bool.false_eq_true, if_false]

end Json.Token

namespace Document

open Json Json.Token

/-- The document of a unit with a path and nothing else. -/
def pathDocument : Json := .object [("source_path", .string "a")]

/-- The document of a unit with a path, and a number under a name that is not declared. -/
def sizedDocument (number : Nat) : Json :=
  .object [("source_path", .string "a"), ("size", .integer (.ofNat number))]

/-- A number under a name that is not declared revises the document of a unit with a path. -/
theorem sizedDocument_revised (number : Nat) :
    Revised (.own .unit) pathDocument (sizedDocument number) := by
  refine .own .unit _ _ (.edited _ _ _ _ _ [] [("size", .integer (.ofNat number))] (by decide)
    (.refl _) (.refl _) (.kept _ ("source_path", .string "a") _ _ (.nil _)) (by simp) ?_)
  rw [List.forall_mem_singleton]
  have undeclared : ∀ rule ∈ NodeClass.unit.declared true, rule.name ≠ "size" := by decide
  exact ⟨undeclared, rfl⟩

/-- A document with a number of too many digits is refused. -/
theorem sizedDocument_refused {number : Nat} (oversized : 10 ^ Numeral.digitLimit ≤ number) :
    Json.read? ((sizedDocument number).write .oneLine) = none := by
  have written : (toString (Int.ofNat number)).toList = Nat.toDigits 10 number := by
    rw [Literal.WholeNumeral.toList_toString]
    rfl
  obtain ⟨first, rest, digits⟩ :=
    List.exists_cons_of_ne_nil (Nat.toDigits_ne_nil : Nat.toDigits 10 number ≠ [])
  have inside : ∀ digit ∈ first :: rest, endsWord digit = false := by
    rw [← digits]
    exact fun digit among =>
      endsWord_of_isDigit (Nat.isDigit_of_mem_toDigits (by decide) (by decide) among)
  have refused : ofWord? Numeral.digitLimit (first :: rest) = none := by
    rw [← digits]
    exact ofWord?_oversized (by decide) oversized
  have scanned : tokens? Numeral.digitLimit ((sizedDocument number).write .oneLine) = none := by
    rw [tokens?, write, String.toList_ofList, scan_eq_resume, sizedDocument]
    simp only [writtenBefore, fieldsBefore, Layout.lineStart, List.append_assoc, List.nil_append,
      List.cons_append, written, digits]
    rw [resume_mark rfl, resume_fieldName, resume_writtenString, resume_separator,
      resume_fieldName]
    exact resume_refused inside refused (parted_cons (by decide) [])
  show tokens? Numeral.digitLimit _ >>= _ = _
  rw [scanned]
  rfl

/-- A scalar under a name that is not declared spoils a document that is accepted without it, if the
scalar is a number of too many digits. -/
theorem added_number_refused :
    parse (pathDocument.write .oneLine) = .valid ⟨"a", none, [], []⟩ ∧
      Revised (.own .unit) pathDocument (sizedDocument (10 ^ Numeral.digitLimit)) ∧
      parse ((sizedDocument (10 ^ Numeral.digitLimit)).write .oneLine) = .problem .invalidJson := by
  refine ⟨rfl, sizedDocument_revised _, ?_⟩
  rw [parse, parseAs, sizedDocument_refused (Nat.le_refl _)]

end Document

end TypedDefaults
