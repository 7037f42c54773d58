import TypedDefaults.Proofs.Homes

/-!
# References to synthesized fields

A companion that takes a stored value refers to the field of the entry, by its
bare name inside the class of the field and behind the name of that class from
elsewhere. The bare name reaches the field: what a class between the member and
the field declares was avoided when the field was named, and no other field of
the file has its name. So every reference in an added companion leads to exactly
one member of the file, which is the synthesized field.
-/

namespace TypedDefaults

open Java Synthesis

/-- Behind parts that are there, a further part stands behind a separator. -/
theorem Text.join_append_singleton (separator last : String) (parts : List String)
    (some : parts ≠ []) :
    Text.join separator (parts ++ [last]) = Text.join separator parts ++ separator ++ last := by
  have characters : ∀ parts : List (List Char), parts ≠ [] →
      separator.toList.intercalate (parts ++ [last.toList]) =
        separator.toList.intercalate parts ++ separator.toList ++ last.toList := by
    intro parts some
    induction parts with
    | nil => exact absurd rfl some
    | cons first rest inductionHypothesis =>
      cases rest with
      | nil => simp [List.intercalate_cons_cons, List.intercalate_singleton]
      | cons second others =>
        rw [List.cons_append, List.cons_append, List.intercalate_cons_cons,
          List.intercalate_cons_cons, ← List.cons_append, inductionHypothesis (by simp)]
        simp only [List.append_assoc]
  rw [Text.join, Text.join, List.map_append, List.map_singleton,
    characters _ (by simpa using some), String.ofList_append, String.ofList_append,
    String.ofList_toList, String.ofList_toList]

/-- A qualified name is written as its names with dots between them, of which there is one at
least. -/
theorem Java.Expression.print_of_namePath? : ∀ (expression : Expression) (path : List String),
    expression.namePath? = some path → path ≠ [] ∧ expression.print = Text.join "." path
  | .identifier name, path, written => by
    obtain rfl := Option.some.inj written
    exact ⟨List.cons_ne_nil _ _, by simp [print, Text.join]⟩
  | .fieldAccess target name type, path, written => by
    obtain ⟨outer, qualifier, rfl⟩ := Option.map_eq_some_iff.mp written
    obtain ⟨some, printed⟩ := print_of_namePath? target outer qualifier
    refine ⟨List.concat_ne_nil _ _, ?_⟩
    rw [print, printed, Text.join_append_singleton _ _ _ some]
  | .literal _ _, _, written => by cases written
  | .call _ _ _ _, _, written => by cases written
  | .arrayInitializer _, _, written => by cases written
  | .assignment _ _, _, written => by cases written

/-- The names by which a class is reached from anywhere in its file, the outermost first. -/
def Java.ClassType.path (type : ClassType) : List String :=
  type.chain.reverse.map simpleName

/-- The reference to a class is written with the names by which the class is reached from anywhere
in its file. -/
theorem Java.ClassType.namePath?_reference (type : ClassType) :
    type.reference.namePath? = some type.path := by
  have written : ∀ (name : String) (around : List String),
      (referenceTo name around).namePath? =
        some ((ofNames (name :: around)).reverse.map simpleName) := by
    intro name around
    induction around generalizing name with
    | nil => rfl
    | cons owner around inductionHypothesis =>
      have inner : ofNames (name :: owner :: around) =
          ⟨name, owner :: around⟩ :: ofNames (owner :: around) := rfl
      rw [referenceTo, Expression.namePath?, inductionHypothesis, Option.map_some, inner,
        List.reverse_cons, List.map_append]
      rfl
  exact written type.qualifiedName type.enclosing

/-- The reference to a class is written as the canonical name of the class. -/
theorem Java.ClassType.print_reference (type : ClassType) :
    type.reference.print = type.canonicalName :=
  (type.reference.print_of_namePath? type.path type.namePath?_reference).2

/-- The name by which an expression refers to a field: its own, or that behind a qualifier. -/
def Java.Expression.referred? : Expression → Option Identifier
  | .identifier name => some name
  | .fieldAccess _ name _ => some name
  | _ => none

/-- A literal that is converted gives a literal of the primitive type of the kind. -/
theorem Literal.convert_literal (kind : Kind) (token : String) (value : Expression)
    (converted : Literal.convert kind token = .ok (some value)) :
    ∃ source keyword, value = .literal source (some (.primitive keyword)) ∧
      Literal.keyword? kind = some keyword := by
  rw [Literal.convert] at converted
  split at converted
  · cases converted
  · rename_i keyword named
    cases settled : Literal.token? kind (Literal.unquote token) with
    | error numeral => simp [settled, Except.map] at converted
    | ok answer =>
      cases answer with
      | none => simp [settled, Except.map] at converted
      | some source =>
        refine ⟨source, keyword, ?_, named⟩
        simpa [settled, Except.map, eq_comm] using converted

/-- What is put in place of a literal refers to no field. -/
theorem Occurrence.inPlace_refers_to_nothing (configuration : Configuration) (found : Occurrence)
    (analysis : Analysis) (value : Expression)
    (analysed : found.analyse configuration = .ok analysis)
    (inPlace : analysis.outcome = .inPlace value) : value.referred? = none := by
  cases found.analyse_finds configuration analysis analysed with
  | converted token type literal scalar written conversion =>
    obtain rfl := Outcome.inPlace.inj inPlace
    obtain ⟨_, _, rfl, _⟩ := Literal.convert_literal found.kind token literal conversion
    rfl
  | listed token type container written inline =>
    obtain rfl := Outcome.inPlace.inj inPlace
    rfl
  | _ => cases inPlace

/-- The companion of an occurrence, strings apart, takes a value put in place or the reference to
the field of the entry stored for it. -/
theorem Occurrence.companion?_cases (configuration : Configuration) (store : Store)
    (found : Occurrence) (use : AnnotationUse) (kind : found.kind ≠ .passThroughString)
    (companion : found.companion? configuration store = some use) :
    ∃ value, use.arguments = some [value] ∧
      ((∃ analysis, found.analyse configuration = .ok analysis ∧
          analysis.outcome = .inPlace value) ∨
        ∃ key anchor entry, found.Keyed configuration key anchor ∧
          store.get? key = some entry ∧ value = entry.reference (some found.scope)) := by
  obtain ⟨value, due, made⟩ := Option.bind_eq_some_iff.mp companion
  obtain ⟨holder, _, rfl⟩ := Option.map_eq_some_iff.mp made
  refine ⟨value, rfl, ?_⟩
  rw [Occurrence.due] at due
  cases analysed : found.analyse configuration with
  | error numeral => simp [analysed, Due.value?] at due
  | ok analysis =>
    rw [analysed] at due
    cases outcome : analysis.outcome with
    | skipped reason => simp [Due.ofAnalysis, outcome, Due.value?] at due
    | passedThrough =>
      cases found.analyse_finds configuration analysis analysed with
      | passed string => exact absurd string kind
      | _ => cases outcome
    | inPlace placed =>
      obtain rfl : placed = value := by simpa [Due.ofAnalysis, outcome, Due.value?] using due
      exact .inl ⟨analysis, rfl, outcome⟩
    | keyed key anchor =>
      cases stored : store.get? key with
      | none => simp [Due.ofAnalysis, outcome, stored, Due.value?] at due
      | some entry =>
        refine .inr ⟨key, anchor, entry, ⟨analysis, analysed, outcome⟩, stored, ?_⟩
        simpa [Due.ofAnalysis, outcome, stored, Due.value?, eq_comm] using due

/-- An annotation of a relocated member whose type the member did not have is the companion of one
of its occurrences. -/
theorem Relocation.companion_of_added (configuration : Configuration) (store : Store)
    (file : String) (position : ClassPosition) (member : Member) (use : AnnotationUse)
    (inside : use ∈ Relocation.relocatedUses configuration store file position member)
    (added : ∀ old ∈ member.annotations, old.type.qualifiedName ≠ use.type.qualifiedName) :
    ∃ found ∈ Occurrence.ofMember configuration file position member,
      found.companion? configuration store = some use := by
  rcases Relocation.mem_relocatedUses file position member use inside with
    companion | ⟨before, annotated, rfl⟩
  · exact companion
  · exact absurd (Relocation.type_strippedUse file position member before).symm
      (added before annotated ∘ congrArg ClassType.qualifiedName)

/-- Looking outwards from a changed class, a name is found in the class that comes to declare it, if
no class on the way does. -/
theorem find_changedChain (change : ClassChange) (name : String) (home : ClassPosition)
    (between : List ClassDeclaration)
    (quiet : ∀ inner declaration rest, between = inner ++ declaration :: rest →
      name ∉ (ClassPosition.changed change ⟨declaration, rest ++ home.chain⟩).declaredNames)
    (declared : name ∈ (home.changed change).declaredNames) :
    (changedChain change (between ++ home.chain)).find?
        (fun declaration => declaration.declaredNames.contains name) =
      some (home.changed change) := by
  induction between with
  | nil =>
    rw [List.nil_append, ClassPosition.chain, changedChain, List.find?_cons_of_pos]
    exact List.contains_iff_mem.mpr declared
  | cons declaration rest inductionHypothesis =>
    have here := quiet [] declaration rest rfl
    rw [List.cons_append, changedChain, List.find?_cons_of_neg]
    · apply inductionHypothesis
      intro inner deeper further split
      exact quiet (declaration :: inner) deeper further (by rw [split, List.cons_append])
    · rw [List.contains_iff_mem]
      exact here

/-- The position of a class has the class of an entry on its way outwards exactly if the entry is
referred to by its bare name. -/
theorem Java.CompilationUnit.WellNested.encloses_iff {unit : CompilationUnit}
    (nested : unit.WellNested) (position : ClassPosition) (placed : position ∈ unit.positions)
    (scope : ClassType) :
    ClassType.isSameOrEnclosing? (some scope) (some position.type) = some true ↔
      ∃ around ∈ position.chain, around.header.type.qualifiedName = scope.qualifiedName := by
  rw [ClassType.isSameOrEnclosing?, Option.some.injEq, ClassType.isSameOrEnclosing,
    List.any_eq_true, nested position placed]
  simp only [List.mem_map, decide_eq_true_eq]
  constructor
  · rintro ⟨_, ⟨around, inside, rfl⟩, same⟩
    exact ⟨around, inside, same⟩
  · rintro ⟨around, inside, same⟩
    exact ⟨_, ⟨around, inside, rfl⟩, same⟩

/-- From a class outwards there is the class of an entry exactly if the entry is referred to by its
bare name. -/
theorem Entry.reference_bare_iff (entry : Entry) {unit : CompilationUnit}
    (nested : unit.WellNested) (position : ClassPosition) (placed : position ∈ unit.positions) :
    entry.reference (some position.type) = .identifier entry.fieldIdentifier ↔
      ∃ around ∈ position.chain,
        around.header.type.qualifiedName = entry.scope.qualifiedName := by
  rw [← nested.encloses_iff position placed, Entry.reference]
  split
  · rename_i encloses
    simp [encloses]
  · rename_i apart
    simp [apart]

/-- A reference that is not the bare name is written with the canonical name of the class. -/
theorem Entry.print_reference (entry : Entry) (scope : Option ClassType)
    (qualified : entry.reference scope ≠ .identifier entry.fieldIdentifier) :
    (entry.reference scope).print = entry.scope.canonicalName ++ "." ++ entry.fieldName := by
  rw [Entry.reference] at qualified ⊢
  split at qualified
  · exact absurd rfl qualified
  · rename_i apart
    rw [if_neg apart, Expression.print, ClassType.print_reference]
    rfl

/-- A reference leads to a synthesized field. In the output there is one class with the name of the
owner, and it has one member of the field's name, which is the field. The reference is the bare name
exactly inside that class, where the first class outwards that declares the name is the class of the
field; elsewhere it is written with the canonical name of the owner. -/
structure LeadsToField (output : CompilationUnit) (place : ClassPosition) (reference : Expression)
    (name : Identifier) (owner : ClassType) (home : ClassPosition) (field : FieldDeclaration) :
    Prop where
  symbol : ∃ type, name.symbol = some ⟨some owner, name.name, type⟩
  classes : output.positions.filter (fun position =>
    position.type.qualifiedName = owner.qualifiedName) = [home]
  members : home.declaration.body.filter (Member.declares name.name) = [.field field]
  bare : reference = .identifier name ↔
    ∃ around ∈ place.chain, around.header.type.qualifiedName = owner.qualifiedName
  reached : reference = .identifier name →
    place.chain.find? (fun declaration => declaration.declaredNames.contains name.name) =
      some home.declaration
  qualified : reference ≠ .identifier name →
    reference.print = owner.canonicalName ++ "." ++ name.name

section

variable {configuration : Configuration} {units : List CompilationUnit} {unit : CompilationUnit}
  {entry : Entry} {occurrence : Occurrence} {key : Key} {anchor : Anchor}

/-- On the way from a class out to the class of an entry, no class comes to declare the name of the
field: what is nested in the class of the entry was avoided when the field was named. -/
theorem Entry.Kept.quiet_between
    (kept : entry.Kept configuration units unit occurrence key anchor) (named : unit.NamedApart)
    (position : ClassPosition) (placed : position ∈ unit.positions)
    (between : List ClassDeclaration)
    (chain : position.chain = between ++ occurrence.position.chain)
    (inner : List ClassDeclaration) (declaration : ClassDeclaration)
    (rest : List ClassDeclaration) (split : between = inner ++ declaration :: rest) :
    entry.fieldName ∉ (ClassPosition.changed (Apply.classChange configuration
      (scanned configuration units).store unit)
        ⟨declaration, rest ++ occurrence.position.chain⟩).declaredNames := by
  have onTheWay : position.chain =
      inner ++ declaration :: (rest ++ occurrence.position.chain) := by
    rw [chain, split, List.append_assoc, List.cons_append]
  obtain ⟨reached, _⟩ := unit.position_around position placed inner declaration _ onTheWay
  refine kept.only_home named _ reached ?_ ?_
  · intro same
    have length := congrArg (fun position => position.enclosing.length) same
    simp only [List.length_append, ClassPosition.chain, List.length_cons] at length
    omega
  · intro declared
    obtain ⟨_, nestedNames⟩ :=
      unit.position_around position placed between occurrence.position.declaration
        occurrence.position.enclosing chain
    apply kept.made.apart
    rw [ScanState.takenAt, List.mem_append]
    right
    exact nestedNames declaration (by rw [split]; simp) _ declared

/-- Inside the class of an entry, the bare name of the field reaches that class first. -/
theorem Entry.Kept.reached_from (kept : entry.Kept configuration units unit occurrence key anchor)
    (named : unit.NamedApart) (position : ClassPosition) (placed : position ∈ unit.positions)
    (around : ClassDeclaration) (inside : around ∈ position.chain)
    (sameName : around.header.type.qualifiedName = entry.scope.qualifiedName) :
    (position.moved (Apply.classChange configuration (scanned configuration units).store
        unit)).chain.find? (fun declaration => declaration.declaredNames.contains entry.fieldName) =
      some (occurrence.position.changed (Apply.classChange configuration
        (scanned configuration units).store unit)) := by
  obtain ⟨between, outer, split⟩ := List.append_of_mem inside
  obtain ⟨reached, _⟩ := unit.position_around position placed between around outer split
  have atHome : ClassPosition.mk around outer = occurrence.position := by
    apply position_of_name named reached (Occurrence.file_of_mem_ofUnit kept.here).2
    exact sameName.trans (congrArg ClassType.qualifiedName kept.made.scope)
  have chain : position.chain = between ++ occurrence.position.chain := by
    rw [split, ← atHome]
    rfl
  rw [ClassPosition.chain_moved, chain]
  exact find_changedChain _ _ occurrence.position between
    (kept.quiet_between named position placed between chain) kept.declared_at_home

/-- The reference that is made from a class to the field of an entry leads to the field.

The entry was made at its home, a class of the same file. Outside that class the reference is
qualified. Inside, every class on the way from the member to the home is nested in the home, so its
own names were avoided when the field was named, and the fields that it gets have other names. -/
theorem Entry.Kept.reference_leads
    (kept : entry.Kept configuration units unit occurrence key anchor)
    (named : unit.NamedApart) (nested : unit.WellNested) (position : ClassPosition)
    (placed : position ∈ unit.positions) :
    ∃ field, entry.field unit.imports = .ok field ∧
      LeadsToField (Apply.migrated configuration (scanned configuration units).store unit)
        (position.moved (Apply.classChange configuration (scanned configuration units).store unit))
        (entry.reference (some position.type)) entry.fieldIdentifier entry.scope
        (occurrence.position.moved
          (Apply.classChange configuration (scanned configuration units).store unit)) field := by
  obtain ⟨field, filled, only⟩ := kept.only_member
  have bare := entry.reference_bare_iff nested position placed
  have moved := ClassPosition.names_chain_moved (Apply.classChange_keepsNesting configuration
    (scanned configuration units).store unit) position entry.scope.qualifiedName
  refine ⟨field, filled, ⟨⟨_, rfl⟩, kept.only_class named, only, bare.trans moved.symm, ?_, ?_⟩⟩
  · intro isBare
    obtain ⟨around, inside, sameName⟩ := bare.mp isBare
    exact kept.reached_from named position placed around inside sameName
  · exact entry.print_reference _

end

/-- A reference in a companion that a run has added leads to the field of the entry that the run
stored for an occurrence of the member. The class of the field did not declare its name before. The
companion may be of any kind but that of strings, whose values are passed through.

The companion was made for an occurrence of the member, and its value is the reference to the field
of the entry under the key of the occurrence; values put in place refer to nothing. The entry was
made for an occurrence of the same file, as files have paths of their own. -/
theorem references_lead_to_fields (configuration : Configuration) (units : List CompilationUnit)
    (report : RunReport) (paths : (units.map CompilationUnit.sourcePath).Nodup)
    (named : ∀ unit ∈ units, unit.NamedApart) (nested : ∀ unit ∈ units, unit.WellNested)
    (returned : (run configuration units ()).outcome = .ok report)
    (unit output : CompilationUnit) (position place : ClassPosition) (member result : Member)
    (counterpart : Counterpart units report unit output position place member result)
    (kind : Kind.ofType member.declaredType ≠ .passThroughString)
    (use : AnnotationUse) (inside : use ∈ result.annotations)
    (added : ∀ old ∈ member.annotations, old.type.qualifiedName ≠ use.type.qualifiedName)
    (argument : Expression) (taken : argument ∈ use.arguments.getD []) (name : Identifier)
    (refers : argument.referred? = some name) :
    ∃ owner home field,
      LeadsToField output place argument name owner home field ∧
      (∃ found ∈ Occurrence.ofMember configuration unit.sourcePath position member,
        ∃ key anchor entry, found.Keyed configuration key anchor ∧
          (scanned configuration units).store.get? key = some entry ∧
          entry.field unit.imports = .ok field) ∧
      ∀ before ∈ unit.positions, before.type.qualifiedName = owner.qualifiedName →
        name.name ∉ before.declaration.declaredNames := by
  have listed : unit ∈ units := (List.of_mem_zip counterpart.files).1
  have placed : position ∈ unit.positions := (List.of_mem_zip counterpart.classes).1
  have declared : member ∈ position.declaration.body := by
    obtain ⟨_, _, _, _, members⟩ := counterpart.members
    exact (List.of_mem_zip members).1
  rw [counterpart.annotations_exact returned] at inside
  obtain ⟨found, ofMember, companion⟩ :=
    Relocation.companion_of_added _ _ _ _ _ use inside added
  have ofUnit : found ∈ Occurrence.ofUnit configuration unit :=
    (Occurrence.mem_ofUnit_iff ..).mpr ⟨position, placed, member, declared, ofMember⟩
  obtain ⟨_, atPosition, ofItsMember, _⟩ := Occurrence.mem_ofAnnotations _ _ _ _ _ _ _ ofMember
  have foundKind : found.kind ≠ .passThroughString := by
    rw [Occurrence.kind, ofItsMember]
    exact kind
  obtain ⟨value, arguments, cases⟩ :=
    found.companion?_cases configuration _ use foundKind companion
  rw [arguments, Option.getD_some, List.mem_singleton] at taken
  subst taken
  rcases cases with ⟨analysis, analysed, inPlace⟩ | ⟨key, anchor, entry, keyed, stored, rfl⟩
  · rw [found.inPlace_refers_to_nothing configuration analysis _ analysed inPlace] at refers
    cases refers
  · obtain ⟨_, first, firstKey, firstAnchor, again, kept, _⟩ :=
      keyed.entry_kept paths listed ofUnit
    obtain rfl := Option.some.inj (stored.symm.trans again)
    have touched := Occurrence.touches_of_mem_ofUnit configuration unit found ofUnit
    have output := counterpart.output_exact returned
    rw [if_pos touched] at output
    have reference : name = entry.fieldIdentifier := by
      rw [Entry.reference] at refers
      split at refers <;> exact (Option.some.inj refers).symm
    obtain ⟨field, filled, leads⟩ :=
      kept.reference_leads (named unit listed) (nested unit listed) position placed
    rw [output, (counterpart.touched_exact returned touched).1, reference, Occurrence.scope,
      atPosition]
    refine ⟨_, _, field, leads, ⟨found, ofMember, key, anchor, entry, keyed, stored, filled⟩, ?_⟩
    intro before beforePlaced sameName
    have home := (Occurrence.file_of_mem_ofUnit kept.here).2
    rw [kept.made.scope] at sameName
    rw [position_of_name (named unit listed) beforePlaced home sameName]
    exact kept.undeclared

/-- A class with a list of constants, and a class inside it with a set of the same. -/
def nestingClass : CompilationUnit :=
  let constant := constantBehind "A" (some (.topLevel "p.A"))
  singleClass
    [annotatedField (.generic (.topLevel "java.util.List") [.string]) constant,
     .nested ⟨"N", ⟨"p.M.N", ["p.M"]⟩, [], []⟩
      [annotatedField (.generic (.topLevel "java.util.Set") [.string]) constant]]

/-- What a run makes of the class with a list and the set nested in it. -/
def nestingReport : RunReport := (run {} [nestingClass] ()).outcome.toOption.getD default

/-- The companion of a set in a nested class refers to the field for the list of the class around
it, by the bare name. -/
theorem references_lead_from_nested :
    ∃ output place result use argument name owner home field,
      (run {} [nestingClass] ()).outcome = .ok nestingReport ∧
      Counterpart [nestingClass] nestingReport nestingClass output nestingClass.positions[1]! place
        nestingClass.positions[1]!.declaration.body[0]! result ∧
      use ∈ result.annotations ∧ use.arguments = some [argument] ∧
      argument = .identifier name ∧ name.name = "a__xAsArray" ∧
      LeadsToField output place argument name owner home field := by
  let output := nestingReport.units[0]!
  let place := output.positions[1]!
  let result := place.declaration.body[0]!
  have counterpart : Counterpart [nestingClass] nestingReport nestingClass output
      nestingClass.positions[1]! place nestingClass.positions[1]!.declaration.body[0]! result :=
    ⟨by decide, by decide, [], place.declaration.body, by decide, by decide, by decide⟩
  obtain ⟨owner, home, field, leads, _⟩ := references_lead_to_fields {} [nestingClass]
    nestingReport (by decide) (by decide) (by decide) rfl nestingClass output _ place _ result
    counterpart (by decide) result.annotations[0]! (by decide) (by decide) _
    List.mem_cons_self _ rfl
  exact ⟨output, place, result, _, _, _, owner, home, field, rfl, counterpart,
    List.mem_cons_self, rfl, rfl, by decide, leads⟩

end TypedDefaults
