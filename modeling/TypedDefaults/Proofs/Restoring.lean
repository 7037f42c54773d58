import TypedDefaults.Document.Reader
import TypedDefaults.Document.Writer
import TypedDefaults.Proofs.Rebuilding

/-!
# Trees restored from their documents

Every writer of a tree has a reader that gives the tree back, the types of
symbols included. A reader of a part restores a value if it gives that value for
the part that is written for it; fields, lists and values that may be absent are
restored if what they hold is. The lemmas follow the shape of the trees: types,
then expressions, then members, and at last whole compilation units.
-/

namespace TypedDefaults

open Java

namespace Document

section Restoring

variable {α β : Type} {json written : Json}

/-- A function of a value that is given. -/
theorem map_given {function : α → β} {reading : Checked α} {value : α}
    (given : reading = .valid value) : function <$> reading = .valid (function value) := by
  rw [given]
  rfl

/-- A function and its argument that are both given. -/
theorem seq_given {function : α → β} {functionReading : Checked (α → β)} {reading : Checked α}
    {value : α} (functionGiven : functionReading = .valid function)
    (given : reading = .valid value) :
    functionReading <*> reading = .valid (function value) := by
  rw [functionGiven, given]
  rfl

/-- A reader of a part gives a value for what is written of it. -/
def Restores (read : Part json → Checked α) (written : Json) (value : α) : Prop :=
  ∀ part : Part json, part.val = written → read part = .valid value

/-- A reader of whole values that gives a value back restores it in a part. -/
theorem restores_whole {read : Json → Checked α} {value : α} (back : read written = .valid value) :
    Restores (fun part : Part json => read part.val) written value := by
  intro part same
  show read part.val = _
  rw [same, back]

/-- A string is restored. -/
theorem restores_string (text : String) :
    Restores (string : Part json → Checked String) (.string text) text := by
  intro part same
  rw [string, same]

/-- A truth value is restored. -/
theorem restores_truth (value : Bool) :
    Restores (truth : Part json → Checked Bool) (.boolean value) value := by
  intro part same
  rw [truth, same]

/-- A part is found by its name. -/
theorem part?_of_field? {name : String} (found : json.field? name = some written) :
    part? name json = some ⟨written, Json.sizeOf_field? found⟩ := by
  unfold part?
  split
  case h_1 other foundOther =>
    obtain rfl : other = written := Option.some.inj (foundOther.symm.trans found)
    rfl
  case h_2 absent => simp [absent] at found

/-- A field that must be present is restored if its value is. -/
theorem required_restored {name : String} {read : Part json → Checked α} {value : α}
    (found : json.field? name = some written) (restores : Restores read written value) :
    required name json read = .valid value := by
  rw [required, part?_of_field? found]
  show (read _).under _ = _
  rw [restores _ rfl, Checked.under]

/-- A field that may be left out is restored if its value is. -/
theorem defaulted_restored {name : String} {default : α} {read : Part json → Checked α} {value : α}
    (found : json.field? name = some written) (restores : Restores read written value) :
    defaulted name json default read = .valid value := by
  rw [defaulted, part?_of_field? found]
  show (read _).under _ = _
  rw [restores _ rfl, Checked.under]

/-- An absent value is restored. -/
theorem restores_absent (read : Part json → Checked α) :
    Restores (nullable read) .null none := by
  intro part same
  rw [nullable, same]

/-- A value that might be absent is restored if it is there. -/
theorem restores_present {read : Part json → Checked α} {value : α} (present : written ≠ .null)
    (restores : Restores read written value) :
    Restores (nullable read) written (some value) := by
  intro part same
  have back : read part = .valid value := restores part same
  rw [nullable]
  split
  case h_1 null => exact absurd (same.symm.trans null) present
  case h_2 => rw [back, Checked.map]

/-- A value that may be absent is restored if the value there is. -/
theorem restores_optional {read : Part json → Checked α} {write : α → Json} {option : Option α}
    (present : ∀ value, write value ≠ .null)
    (restores : ∀ value ∈ option, Restores read (write value) value) :
    Restores (nullable read) (optional write option) option := by
  cases option with
  | none => exact restores_absent read
  | some value => exact restores_present (present value) (restores value rfl)

/-- Readers that give all their values give the list of them. -/
theorem sequenceFrom_valid (position : Nat) (values : List α) :
    Checked.sequenceFrom position (values.map Checked.valid) = .valid values := by
  induction values generalizing position with
  | nil => rfl
  | cons value rest inductionHypothesis =>
    rw [List.map_cons, Checked.sequenceFrom, inductionHypothesis]
    rfl

/-- Parts that are what is written of values are read as the values. -/
theorem map_restored {read : Part json → Checked α} {write : α → Json} {parts : List (Part json)}
    {values : List α} (same : parts.map Subtype.val = values.map write)
    (restores : ∀ value ∈ values, Restores read (write value) value) :
    parts.map read = values.map Checked.valid := by
  induction parts generalizing values with
  | nil =>
    obtain rfl : values = [] := List.map_eq_nil_iff.mp same.symm
    rfl
  | cons part rest inductionHypothesis =>
    cases values with
    | nil => simp at same
    | cons value others =>
      obtain ⟨samePart, sameRest⟩ := List.cons.inj same
      obtain ⟨firstRestores, othersRestore⟩ := List.forall_mem_cons.mp restores
      rw [List.map_cons, List.map_cons, firstRestores part samePart,
        inductionHypothesis sameRest othersRestore]

/-- A list is restored if its elements are. -/
theorem restores_list {read : Part json → Checked α} {write : α → Json} {values : List α}
    (restores : ∀ value ∈ values, Restores read (write value) value) :
    Restores (listOf read) (.array (values.map write)) values := by
  intro part same
  obtain ⟨whole, smaller⟩ := part
  obtain rfl : whole = .array (values.map write) := same
  rw [listOf, elements?]
  show Checked.sequence (List.map read _) = _
  rw [map_restored (by rw [List.map_map]; exact List.attach_map_subtype_val _) restores]
  exact sequenceFrom_valid 0 values

/-- A node in a slot of its own class is read as its fields. -/
theorem fixedNode_given {tag : String} {fields : Checked α} {value : α}
    (tagged : json.field? "node" = some (.string tag)) (given : fields = .valid value) :
    fixedNode tag json fields = .valid value := by
  have right : ownTag tag json = .valid () := by
    rw [ownTag, tagged]
    exact if_pos rfl
  cases json with
  | object entries =>
    rw [given]
    show ((Checked.valid value).both (ownTag tag (.object entries))).map Prod.fst = _
    rw [right]
    rfl
  | _ => simp [Json.field?] at tagged

/-- A node in a slot for several classes is read as the class that its tag chooses. -/
theorem taggedNode_given {tag : String} {choose : String → Option (Checked α)}
    {fields : Checked α} {value : α} (tagged : json.field? "node" = some (.string tag))
    (chosen : choose tag = some fields) (given : fields = .valid value) :
    taggedNode json choose = .valid value := by
  cases json with
  | object entries => simp only [taggedNode, tagged, chosen, given, Checked.under]
  | _ => simp [Json.field?] at tagged

end Restoring

section Types

variable {json : Json}

/-- A written class type is not null. -/
theorem ofClass_ne_null (type : ClassType) : ofClass type ≠ .null := by
  obtain ⟨name, enclosing⟩ := type
  cases enclosing <;> simp [ofClass, ofClassNames, node]

/-- A written type is not null. -/
theorem ofType_ne_null (type : JavaType) : ofType type ≠ .null := by
  cases type with
  | named type => exact ofClass_ne_null type
  | _ => simp [ofType, node]

/-- A written class type has the tag of classes. -/
theorem tag_ofClass (type : ClassType) :
    (ofClass type).field? "node" = some (.string "class") := by
  obtain ⟨name, enclosing⟩ := type
  cases enclosing <;> rfl

/-- The fields of a written class type are read as the type. -/
theorem classFields_ofClass (type : ClassType) : classFields (ofClass type) = .valid type := by
  obtain ⟨name, enclosing⟩ := type
  induction enclosing generalizing name with
  | nil =>
    rw [classFields]
    show _ = Checked.valid (ClassType.within name none)
    refine seq_given (map_given ?name) ?owner
    case name => exact required_restored rfl (restores_string name)
    case owner => exact defaulted_restored rfl (restores_absent _)
  | cons nearest others inductionHypothesis =>
    rw [classFields]
    show _ = Checked.valid (ClassType.within name (some ⟨nearest, others⟩))
    refine seq_given (map_given ?name) ?owner
    case name => exact required_restored rfl (restores_string name)
    case owner =>
      have back : readClass (ofClass ⟨nearest, others⟩) = .valid ⟨nearest, others⟩ :=
        fixedNode_given (tag_ofClass _) (inductionHypothesis nearest)
      exact defaulted_restored rfl
        (restores_present (ofClass_ne_null ⟨nearest, others⟩) (restores_whole back))

/-- A written class type is read back. -/
theorem readClass_ofClass (type : ClassType) : readClass (ofClass type) = .valid type :=
  fixedNode_given (tag_ofClass type) (classFields_ofClass type)

/-- Types are written one by one. -/
theorem ofTypes_eq_map (types : List JavaType) : ofTypes types = types.map ofType := by
  induction types with
  | nil => rfl
  | cons type rest inductionHypothesis => rw [ofTypes, inductionHypothesis, List.map_cons]

mutual

/-- A written type is read back. -/
theorem readType_ofType : ∀ type : JavaType, readType (ofType type) = .valid type
  | .primitive keyword => by
    rw [readType]
    refine taggedNode_given rfl rfl (map_given ?keyword)
    exact required_restored rfl (restores_string keyword)
  | .named type => by
    rw [readType]
    refine taggedNode_given (tag_ofClass type) rfl (map_given ?fields)
    exact classFields_ofClass type
  | .generic base arguments => by
    rw [readType]
    refine taggedNode_given rfl rfl (seq_given (map_given ?base) ?arguments)
    case base => exact required_restored rfl (restores_whole (readClass_ofClass base))
    case arguments =>
      refine defaulted_restored rfl ?_
      rw [ofTypes_eq_map]
      exact restores_list fun type member =>
        restores_whole (readTypes_ofTypes arguments type member)
  | .array element => by
    rw [readType]
    refine taggedNode_given rfl rfl (map_given ?element)
    exact required_restored rfl (restores_whole (readType_ofType element))

/-- Written types are read back. -/
theorem readTypes_ofTypes :
    ∀ types : List JavaType, ∀ type ∈ types, readType (ofType type) = .valid type
  | [] => by simp
  | first :: rest =>
    List.forall_mem_cons.mpr ⟨readType_ofType first, readTypes_ofTypes rest⟩

end

/-- A type that may be absent is read back. -/
theorem typeField_restored {name : String} {type : Option JavaType}
    (found : json.field? name = some (optional ofType type)) :
    typeField name json = .valid type :=
  defaulted_restored found
    (restores_optional ofType_ne_null fun type _ => restores_whole (readType_ofType type))

end Types

section Expressions

/-- A written symbol is read back, its type included. -/
theorem readSymbol_ofSymbol (symbol : Symbol) : readSymbol (ofSymbol symbol) = .valid symbol := by
  refine fixedNode_given rfl (seq_given (seq_given (map_given ?owner) ?name) ?type)
  case owner =>
    exact required_restored rfl
      (restores_optional ofClass_ne_null fun type _ => restores_whole (readClass_ofClass type))
  case name => exact required_restored rfl (restores_string symbol.name)
  case type => exact typeField_restored rfl

/-- The fields of a written identifier are read as the identifier. -/
theorem identifierFields_ofIdentifier (name : Identifier) :
    identifierFields (ofIdentifier name) = .valid name := by
  refine seq_given (seq_given (map_given ?name) ?symbol) ?type
  case name => exact required_restored rfl (restores_string name.name)
  case symbol =>
    have present (symbol : Symbol) : ofSymbol symbol ≠ .null := by simp [ofSymbol, node]
    exact defaulted_restored rfl
      (restores_optional present fun symbol _ => restores_whole (readSymbol_ofSymbol symbol))
  case type => exact typeField_restored rfl

/-- A written identifier is read back. -/
theorem readIdentifier_ofIdentifier (name : Identifier) :
    readIdentifier (ofIdentifier name) = .valid name :=
  fixedNode_given rfl (identifierFields_ofIdentifier name)

/-- A written expression is not null. -/
theorem ofExpression_ne_null (expression : Expression) : ofExpression expression ≠ .null := by
  cases expression with
  | call name receiver arguments type => cases receiver <;> simp [ofExpression, ofCall, node]
  | identifier name => simp [ofExpression, ofIdentifier, node]
  | _ => simp [ofExpression, node]

/-- Expressions are written one by one. -/
theorem ofExpressions_eq_map (expressions : List Expression) :
    ofExpressions expressions = expressions.map ofExpression := by
  induction expressions with
  | nil => rfl
  | cons expression rest inductionHypothesis =>
    rw [ofExpressions, inductionHypothesis, List.map_cons]

/-- A call is written with its receiver, null where it has none. -/
theorem ofExpression_call (name : String) (receiver : Option Expression)
    (arguments : List Expression) (type : Option JavaType) :
    ofExpression (.call name receiver arguments type) =
      ofCall name (optional ofExpression receiver) (arguments.map ofExpression) type := by
  cases receiver with
  | none => rw [ofExpression, ofExpressions_eq_map]; rfl
  | some receiver => rw [ofExpression, ofExpressions_eq_map]; rfl

/-- A written call is read back if its receiver and its arguments are. -/
theorem readCall_ofCall {name : String} {receiver : Option Expression}
    {arguments : List Expression} {type : Option JavaType}
    (receiverRead : ∀ expression ∈ receiver,
      readExpression (ofExpression expression) = .valid expression)
    (argumentsRead : ∀ expression ∈ arguments,
      readExpression (ofExpression expression) = .valid expression) :
    readExpression (ofExpression (.call name receiver arguments type)) =
      .valid (.call name receiver arguments type) := by
  rw [ofExpression_call, readExpression]
  refine taggedNode_given rfl rfl
    (seq_given (seq_given (seq_given (map_given ?method) ?on) ?passed) ?noted)
  case method => exact required_restored rfl (restores_string name)
  case on =>
    exact defaulted_restored rfl (restores_optional ofExpression_ne_null
      fun expression member => restores_whole (receiverRead expression member))
  case passed =>
    exact defaulted_restored rfl
      (restores_list fun expression member => restores_whole (argumentsRead expression member))
  case noted => exact typeField_restored rfl

mutual

/-- A written expression is read back. -/
theorem readExpression_ofExpression :
    ∀ expression : Expression, readExpression (ofExpression expression) = .valid expression
  | .literal token type => by
    rw [readExpression]
    refine taggedNode_given rfl rfl (seq_given (map_given ?token) ?type)
    case token => exact required_restored rfl (restores_string token)
    case type => exact typeField_restored rfl
  | .identifier name => by
    rw [readExpression]
    refine taggedNode_given rfl rfl (map_given ?fields)
    exact identifierFields_ofIdentifier name
  | .fieldAccess target name type => by
    rw [readExpression]
    refine taggedNode_given rfl rfl (seq_given (seq_given (map_given ?target) ?name) ?type)
    case target =>
      exact required_restored rfl (restores_whole (readExpression_ofExpression target))
    case name => exact required_restored rfl (restores_whole (readIdentifier_ofIdentifier name))
    case type => exact typeField_restored rfl
  | .call name none arguments type =>
    readCall_ofCall (by simp) (readExpressions_ofExpressions arguments)
  | .call name (some receiver) arguments type =>
    readCall_ofCall (by simpa using readExpression_ofExpression receiver)
      (readExpressions_ofExpressions arguments)
  | .arrayInitializer elements => by
    rw [readExpression]
    refine taggedNode_given rfl rfl (map_given ?elements)
    refine defaulted_restored rfl ?_
    rw [ofExpressions_eq_map]
    exact restores_list fun expression member =>
      restores_whole (readExpressions_ofExpressions elements expression member)
  | .assignment target value => by
    rw [readExpression]
    refine taggedNode_given rfl rfl (seq_given (map_given ?target) ?value)
    case target => exact required_restored rfl (restores_whole (readIdentifier_ofIdentifier target))
    case value => exact required_restored rfl (restores_whole (readExpression_ofExpression value))

/-- Written expressions are read back. -/
theorem readExpressions_ofExpressions : ∀ expressions : List Expression,
    ∀ expression ∈ expressions, readExpression (ofExpression expression) = .valid expression
  | [] => by simp
  | first :: rest =>
    List.forall_mem_cons.mpr
      ⟨readExpression_ofExpression first, readExpressions_ofExpressions rest⟩

end

/-- Written expressions are restored in a part. -/
theorem restores_expressions {json : Json} (expressions : List Expression) :
    Restores (listOf fun part : Part json => readExpression part.val)
      (.array (ofExpressions expressions)) expressions := by
  rw [ofExpressions_eq_map]
  exact restores_list fun expression _ =>
    restores_whole (readExpression_ofExpression expression)

end Expressions

section Declarations

variable {json : Json}

/-- A written annotation is read back. -/
theorem readAnnotationUse_ofAnnotationUse (use : AnnotationUse) :
    readAnnotationUse (ofAnnotationUse use) = .valid use := by
  refine fixedNode_given rfl (seq_given (seq_given (map_given ?type) ?name) ?arguments)
  case type => exact required_restored rfl (restores_whole (readClass_ofClass use.type))
  case name => exact required_restored rfl (restores_string use.name)
  case arguments =>
    have present (list : List Expression) : Json.array (ofExpressions list) ≠ .null := by simp
    exact defaulted_restored rfl
      (restores_optional present fun expressions _ => restores_expressions expressions)

/-- A list of strings is restored in a part. -/
theorem restores_strings (values : List String) :
    Restores (listOf (string : Part json → Checked String)) (strings values) values :=
  restores_list fun value _ => restores_string value

/-- A list of strings is read back. -/
theorem stringsField_restored {name : String} {values : List String}
    (found : json.field? name = some (strings values)) :
    stringsField name json = .valid values :=
  defaulted_restored found (restores_strings values)

/-- The annotations of a declaration are read back. -/
theorem annotationsField_restored {annotations : List AnnotationUse}
    (found : json.field? "leading_annotations" = some (ofAnnotations annotations)) :
    annotationsField json = .valid annotations :=
  defaulted_restored found
    (restores_list fun use _ => restores_whole (readAnnotationUse_ofAnnotationUse use))

/-- The fields of a written field declaration are read as the declaration. -/
theorem fieldFields_ofField (declaration : FieldDeclaration) :
    fieldFields (ofField declaration) = .valid declaration := by
  refine seq_given (seq_given (seq_given (seq_given (map_given ?name) ?type) ?modifiers)
    ?annotations) ?initializer
  case name => exact required_restored rfl (restores_string declaration.name)
  case type => exact typeField_restored rfl
  case modifiers => exact stringsField_restored rfl
  case annotations => exact annotationsField_restored rfl
  case initializer =>
    exact defaulted_restored rfl (restores_optional ofExpression_ne_null
      fun expression _ => restores_whole (readExpression_ofExpression expression))

/-- The fields of a written method declaration are read as the declaration. -/
theorem methodFields_ofMethod (declaration : MethodDeclaration) :
    methodFields (ofMethod declaration) = .valid declaration := by
  refine seq_given (seq_given (seq_given (seq_given (seq_given (map_given ?name) ?type)
    ?modifiers) ?annotations) ?parameters) ?body
  case name => exact required_restored rfl (restores_string declaration.name)
  case type => exact typeField_restored rfl
  case modifiers => exact stringsField_restored rfl
  case annotations => exact annotationsField_restored rfl
  case parameters => exact stringsField_restored rfl
  case body =>
    have present (values : List String) : strings values ≠ .null := by simp [strings]
    exact defaulted_restored rfl (restores_optional present fun values _ => restores_strings values)

/-- The fields of a written class header are read as the header. -/
theorem headerFields_ofHeader (header : ClassHeader) (body : List Json) :
    headerFields (ofHeader header body) = .valid header := by
  refine seq_given (seq_given (seq_given (map_given ?name) ?type) ?modifiers) ?annotations
  case name => exact required_restored rfl (restores_string header.name)
  case type => exact required_restored rfl (restores_whole (readClass_ofClass header.type))
  case modifiers => exact stringsField_restored rfl
  case annotations => exact annotationsField_restored rfl

/-- Members are written one by one. -/
theorem ofMembers_eq_map (members : List Member) : ofMembers members = members.map ofMember := by
  induction members with
  | nil => rfl
  | cons member rest inductionHypothesis => rw [ofMembers, inductionHypothesis, List.map_cons]

/-- A written member is read back. -/
theorem readMember_ofMember (member : Member) : readMember (ofMember member) = .valid member := by
  induction member using Member.inductionOnMembers with
  | field declaration =>
    rw [readMember]
    exact taggedNode_given rfl rfl (map_given (fieldFields_ofField declaration))
  | method declaration =>
    rw [readMember]
    exact taggedNode_given rfl rfl (map_given (methodFields_ofMethod declaration))
  | nested header body each =>
    rw [ofMember, ofMembers_eq_map, readMember]
    refine taggedNode_given rfl rfl (seq_given (map_given ?heading) ?members)
    case heading => exact headerFields_ofHeader header _
    case members =>
      exact defaulted_restored rfl
        (restores_list fun inner member => restores_whole (each inner member))

/-- A written class declaration is read back. -/
theorem readClassDeclaration_ofClassDeclaration (declaration : ClassDeclaration) :
    readClassDeclaration (ofClassDeclaration declaration) = .valid declaration := by
  rw [ofClassDeclaration, ofMembers_eq_map]
  refine fixedNode_given rfl (seq_given (map_given ?header) ?body)
  case header => exact headerFields_ofHeader declaration.header _
  case body =>
    exact defaulted_restored rfl
      (restores_list fun member _ => restores_whole (readMember_ofMember member))

/-- A written import is read back. -/
theorem readImport_ofImport (entry : Import) : readImport (ofImport entry) = .valid entry := by
  refine fixedNode_given rfl (seq_given (map_given ?name) ?isStatic)
  case name => exact required_restored rfl (restores_string entry.name)
  case isStatic => exact defaulted_restored rfl (restores_truth entry.isStatic)

/-- A written compilation unit is read back. -/
theorem readUnit_ofUnit (unit : CompilationUnit) : readUnit (ofUnit unit) = .valid unit := by
  refine fixedNode_given rfl
    (seq_given (seq_given (seq_given (map_given ?sourcePath) ?package) ?imports) ?classes)
  case sourcePath => exact required_restored rfl (restores_string unit.sourcePath)
  case package =>
    have present (text : String) : Json.string text ≠ .null := by simp
    exact defaulted_restored rfl (restores_optional present fun text _ => restores_string text)
  case imports =>
    exact defaulted_restored rfl
      (restores_list fun entry _ => restores_whole (readImport_ofImport entry))
  case classes =>
    exact defaulted_restored rfl (restores_list fun declaration _ =>
      restores_whole (readClassDeclaration_ofClassDeclaration declaration))

end Declarations

end Document

end TypedDefaults
