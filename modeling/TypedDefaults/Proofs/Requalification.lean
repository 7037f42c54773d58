import TypedDefaults.Proofs.Failures
import TypedDefaults.Proofs.References

/-!
# Qualifiers that hold everywhere

A field access is written again behind the reference to its owner, unless its
qualifier names the owner from everywhere in the file already: in full, by the simple
names from the outermost class inwards, or by those from an imported class inwards.
The reference to a class is of the second form, and it is an expression of that class,
so that what has been written again stays as it is from then on.
-/

namespace TypedDefaults

open Java

/-- Behind a class of the chain come the classes that enclose it. -/
theorem Java.ClassType.around_eq (names : List String) (inner around : List ClassType)
    (head : ClassType) (parts : ofNames names = inner ++ head :: around) :
    around = ofNames head.enclosing := by
  induction names generalizing inner with
  | nil => simp [ofNames] at parts
  | cons name rest inductionHypothesis =>
    cases inner with
    | nil =>
      obtain ⟨rfl, rfl⟩ := List.cons.inj parts
      rfl
    | cons first others => exact inductionHypothesis others (List.cons.inj parts).2

/-- A class of the chain is outermost if it is the last of the chain. -/
theorem Java.ClassType.enclosing_isEmpty_iff {type head : ClassType}
    {inner around : List ClassType} (parts : type.chain = inner ++ head :: around) :
    head.enclosing.isEmpty = true ↔ around = [] := by
  rw [around_eq _ inner around head parts]
  cases head.enclosing <;> simp [ofNames]

/-- The class of the reference is the class itself. -/
theorem Java.ClassType.class?_reference (type : ClassType) : type.reference.class? = some type := by
  obtain ⟨name, enclosing⟩ := type
  cases enclosing <;> rfl

/-- A qualifier names its owner from everywhere in a file: it is spelled in full, from the outermost
class inwards, or from an imported class inwards. -/
inductive Portable (imports : List Import) (owner : ClassType) (qualifier : Expression) : Prop where
  | inFull (written : List String) (path : qualifier.namePath? = some written)
      (full : Text.join "." written = owner.qualifiedName)
  | outermost (path : qualifier.namePath? = some owner.path)
  | imported (inner around : List ClassType) (head : ClassType)
      (parts : owner.chain = inner ++ head :: around) (covers : covered head.qualifiedName imports)
      (path : qualifier.namePath? = some ((inner ++ [head]).reverse.map ClassType.simpleName))

/-- A written path names the owner from everywhere if it is the full name, or the way inwards from a
class that is outermost or imported. -/
theorem namesEverywhere_iff (imports : List Import) (owner : ClassType) (written : List String) :
    namesEverywhere imports owner written = true ↔
      Text.join "." written = owner.qualifiedName ∨
        ∃ inner head around, owner.chain = inner ++ head :: around ∧
          written = (inner ++ [head]).reverse.map ClassType.simpleName ∧
          (around = [] ∨ covered head.qualifiedName imports = true) := by
  rw [namesEverywhere]
  by_cases full : Text.join "." written = owner.qualifiedName
  · simp [full]
  · rw [if_neg full, or_iff_right full, Bool.and_eq_true, decide_eq_true_eq]
    constructor
    · rintro ⟨same, holds⟩
      split at holds
      · rename_i head last
        obtain ⟨inner, taken⟩ := List.getLast?_eq_some_iff.mp last
        have parts : owner.chain = inner ++ head :: owner.chain.drop written.length := by
          rw [List.append_cons, ← taken, List.take_append_drop]
        rw [taken] at same
        rw [Bool.or_eq_true, ClassType.enclosing_isEmpty_iff parts] at holds
        exact ⟨inner, head, _, parts, same, holds⟩
      · cases holds
    · rintro ⟨inner, head, around, parts, same, holds⟩
      have taken : owner.chain.take written.length = inner ++ [head] := by
        rw [same, parts.trans (List.append_cons inner head around), List.length_map,
          List.length_reverse, List.take_left]
      rw [taken, List.getLast?_concat]
      exact ⟨same, by rwa [Bool.or_eq_true, ClassType.enclosing_isEmpty_iff parts]⟩

/-- A qualifier holds everywhere exactly if it is portable. -/
theorem holdsEverywhere_iff (imports : List Import) (owner : ClassType) (qualifier : Expression) :
    holdsEverywhere imports owner qualifier = true ↔ Portable imports owner qualifier := by
  rw [holdsEverywhere]
  constructor
  · intro holds
    split at holds
    · rename_i written path
      rcases (namesEverywhere_iff ..).mp holds with
        full | ⟨inner, head, around, parts, rfl, rfl | covers⟩
      · exact .inFull written path full
      · rw [← parts] at path
        exact .outermost path
      · exact .imported inner around head parts covers path
    · cases holds
  · rintro (⟨written, path, full⟩ | path | ⟨inner, around, head, parts, covers, path⟩) <;> rw [path]
    · exact (namesEverywhere_iff ..).mpr (.inl full)
    · have nonempty : owner.chain ≠ [] := List.cons_ne_nil _ _
      have parts := List.dropLast_append_getLast nonempty
      refine (namesEverywhere_iff ..).mpr (.inr ⟨_, _, [], parts.symm, ?_, .inl rfl⟩)
      rw [parts]
      rfl
    · exact (namesEverywhere_iff ..).mpr (.inr ⟨inner, head, around, parts, rfl, .inr covers⟩)

/-- The reference to a class is portable. -/
theorem Java.ClassType.portable_reference (imports : List Import) (owner : ClassType) :
    Portable imports owner owner.reference :=
  .outermost owner.namePath?_reference

/-- The expression that stands for an anchor from anywhere in a file, be it written again or not. -/
def requalified (imports : List Import) (expression : Expression) :
    Except UnresolvedAnchor Expression :=
  (requalify imports expression).map fun rewritten => rewritten.getD expression

/-- A field access whose qualifier is portable, or whose owner is unknown, is kept. -/
theorem requalified_of_portable {imports : List Import} {target : Expression} {name : Identifier}
    {symbol : Symbol} (type : Option JavaType) (known : name.symbol = some symbol)
    (portable : ∀ owner ∈ Anchor.ownerOf symbol target, Portable imports owner target) :
    requalified imports (.fieldAccess target name type) = .ok (.fieldAccess target name type) := by
  simp only [requalified, requalify, known]
  cases declared : Anchor.ownerOf symbol target with
  | none => rfl
  | some owner =>
    dsimp only
    rw [(holdsEverywhere_iff imports owner target).mpr (portable owner declared)]
    rfl

/-- A field access whose owner is known, and whose qualifier is not portable, is written again
behind the reference to its owner. -/
theorem requalified_of_not_portable {imports : List Import} {target : Expression}
    {name : Identifier} {symbol : Symbol} (type : Option JavaType)
    (known : name.symbol = some symbol) {owner : ClassType}
    (declared : Anchor.ownerOf symbol target = some owner)
    (other : ¬Portable imports owner target) :
    requalified imports (.fieldAccess target name type) =
      .ok (.fieldAccess owner.reference name type) := by
  rw [← holdsEverywhere_iff, Bool.not_eq_true] at other
  simp only [requalified, requalify, known, declared, other]
  rfl

/-- Behind the reference to its owner, a symbol has the same owner. -/
theorem Anchor.ownerOf_reference {symbol : Symbol} {target : Expression} {owner : ClassType}
    (declared : ownerOf symbol target = some owner) :
    ownerOf symbol owner.reference = some owner := by
  rw [ownerOf] at declared ⊢
  split at declared
  · exact declared
  · exact owner.class?_reference

/-- What comes of a field access: the qualifier in front of its name. It is the one that was
written, if that is portable or the owner is unknown; otherwise the access is spelled with the
canonical name of the owner. The owner is the same as before, and portably named where it is known,
so that the access is not written again. -/
structure Requalified (imports : List Import) (target : Expression) (name : Identifier)
    (type : Option JavaType) (symbol : Symbol) (qualifier : Expression) : Prop where
  kept : (∀ owner ∈ Anchor.ownerOf symbol target, Portable imports owner target) →
    qualifier = target
  rebuilt : ∀ owner ∈ Anchor.ownerOf symbol target, ¬Portable imports owner target →
    (Expression.fieldAccess qualifier name type).print = owner.canonicalName ++ "." ++ name.name
  owner : Anchor.ownerOf symbol qualifier = Anchor.ownerOf symbol target
  portable : ∀ owner ∈ Anchor.ownerOf symbol qualifier, Portable imports owner qualifier
  stable : requalified imports (.fieldAccess qualifier name type) =
    .ok (.fieldAccess qualifier name type)

/-- A field access with a symbol keeps its name and type, behind a qualifier that stays. -/
theorem requalified_fieldAccess (imports : List Import) (target : Expression) {name : Identifier}
    (type : Option JavaType) {symbol : Symbol} (known : name.symbol = some symbol) :
    ∃ qualifier,
      requalified imports (.fieldAccess target name type) = .ok (.fieldAccess qualifier name type) ∧
        Requalified imports target name type symbol qualifier := by
  by_cases portable : ∀ owner ∈ Anchor.ownerOf symbol target, Portable imports owner target
  · have kept := requalified_of_portable type known portable
    exact ⟨target, kept, fun _ => rfl, fun owner declared other =>
      absurd (portable owner declared) other, rfl, portable, kept⟩
  · push Not at portable
    obtain ⟨owner, declared, other⟩ := portable
    have same := Anchor.ownerOf_reference declared
    have everywhere : ∀ one ∈ Anchor.ownerOf symbol owner.reference,
        Portable imports one owner.reference := by
      intro one given
      obtain rfl := Option.some.inj (same.symm.trans given)
      exact owner.portable_reference imports
    refine ⟨owner.reference, requalified_of_not_portable type known declared other, ?_, ?_,
      same.trans declared.symm, everywhere, requalified_of_portable type known everywhere⟩
    · exact fun all => absurd (all owner declared) other
    · intro one given _
      obtain rfl := Option.some.inj (declared.symm.trans given)
      rw [Expression.print, owner.print_reference]

/-- Anchors are qualified soundly, and once. Only a field access without symbol cannot be written
again, and the complaint has its text; other expressions than field accesses stay as they are. A
field access with a symbol keeps its name, and thereby the symbol, and its type. Its qualifier stays
if it is portable or the owner is unknown, or else becomes the canonical name of the owner; it is
portable then, and the access stays as it is if it is taken for an anchor again. -/
theorem requalified_soundly (imports : List Import) (expression : Expression) :
    (∀ unresolved, requalified imports expression = .error unresolved ↔
      ∃ target name type, expression = .fieldAccess target name type ∧ name.symbol = none ∧
        unresolved = ⟨expression.print⟩) ∧
    ((∀ target name type, expression ≠ .fieldAccess target name type) →
      requalified imports expression = .ok expression) ∧
    ∀ target name type symbol, expression = .fieldAccess target name type →
      name.symbol = some symbol → ∃ qualifier,
        requalified imports expression = .ok (.fieldAccess qualifier name type) ∧
          Requalified imports target name type symbol qualifier := by
  refine ⟨fun unresolved => ?_, fun noAccess => ?_, ?_⟩
  · rw [← requalify_error_iff, requalified]
    cases requalify imports expression <;> simp [Except.map]
  · cases expression with
    | fieldAccess target name type => exact absurd rfl (noAccess target name type)
    | _ => rfl
  · rintro target name type symbol rfl known
    exact requalified_fieldAccess imports target type known

/-- A class inside another. -/
def innerOwner : ClassType := ⟨"x.y.A.B", ["x.y.A"]⟩

/-- The inner class by its simple name, as it is named next to it. -/
def innerName : Expression := .identifier ⟨"B", none, some (.named innerOwner)⟩

/-- A field of the inner class. -/
def innerField : Identifier := ⟨"anotherField", some ⟨some innerOwner, "anotherField", none⟩, none⟩

/-- By its simple name an inner class is not found from everywhere, and its field is qualified from
the outermost class; where the inner class is imported, its field is kept. -/
theorem requalified_soundly_inner :
    ¬Portable [] innerOwner innerName ∧
      (∃ qualifier, requalified [] (.fieldAccess innerName innerField none) =
          .ok (.fieldAccess qualifier innerField none) ∧
        (Expression.fieldAccess qualifier innerField none).print = "A.B.anotherField" ∧
        requalified [] (.fieldAccess qualifier innerField none) =
          .ok (.fieldAccess qualifier innerField none)) ∧
      requalified [⟨"x.y.A.B", false⟩] (.fieldAccess innerName innerField none) =
        .ok (.fieldAccess innerName innerField none) := by
  have relative : ¬Portable [] innerOwner innerName := by
    rw [← holdsEverywhere_iff]
    decide
  have imported : Portable [⟨"x.y.A.B", false⟩] innerOwner innerName :=
    (holdsEverywhere_iff ..).mp (by decide)
  have declared : Anchor.ownerOf ⟨some innerOwner, "anotherField", none⟩ innerName =
      some innerOwner := rfl
  refine ⟨relative, ?_, ?_⟩
  · obtain ⟨qualifier, written, sound⟩ :=
      (requalified_soundly [] (.fieldAccess innerName innerField none)).2.2 _ _ _ _ rfl rfl
    exact ⟨qualifier, written, sound.rebuilt innerOwner declared relative, sound.stable⟩
  · obtain ⟨qualifier, written, sound⟩ :=
      (requalified_soundly [⟨"x.y.A.B", false⟩]
        (.fieldAccess innerName innerField none)).2.2 _ _ _ _ rfl rfl
    have kept : qualifier = innerName := by
      refine sound.kept fun owner given => ?_
      obtain rfl := Option.some.inj (declared.symm.trans given)
      exact imported
    rw [written, kept]

end TypedDefaults
