import TypedDefaults.Occurrence

/-!
# What an analysis can find

An analysis that comes to an end has found one of eight things. They are listed
once, each with the conditions under which it is found, so that no proof about
a phase opens the analysis again. Kinds that can be stored are the ones for
which an anchor is looked for at all.
-/

namespace TypedDefaults

open Java

/-- A kind is stored unless it is that of strings or unsupported. -/
theorem Kind.stored_iff (kind : Kind) :
    kind.isStored = true ↔ kind ≠ .unsupported ∧ kind ≠ .passThroughString := by
  cases kind <;> decide

/-- A stored kind is either a scalar or a container. -/
theorem Kind.container_of_stored (kind : Kind) (stored : kind.isStored = true)
    (notScalar : kind.isScalar ≠ true) : kind.isContainer = true := by
  simpa [Kind.isStored, notScalar] using stored

/-- Kinds that share their storage have the same template. -/
theorem Kind.storage_of_container (kind : Kind) (container : kind.isContainer = true) :
    kind.storage = .array := by
  simp [Kind.storage, container]

namespace Occurrence

/-- The kind of the member that carries the occurrence. -/
def kind (occurrence : Occurrence) : Kind := Kind.ofType occurrence.member.declaredType

/-- The findings of analyses, with the conditions for each. -/
inductive Finds (configuration : Configuration) (occurrence : Occurrence) : Analysis → Prop where
  | unsupported (unfit : occurrence.kind = .unsupported) :
      Finds configuration occurrence ⟨.unsupported, none, .skipped .unsupportedKind⟩
  | passed (string : occurrence.kind = .passThroughString) :
      Finds configuration occurrence ⟨.passThroughString, none, .passedThrough⟩
  | anchorless (stored : occurrence.kind.isStored = true)
      (absent : Anchor.ofExpression? occurrence.value = none) :
      Finds configuration occurrence
        ⟨occurrence.kind, none, .skipped (anchorlessReason occurrence.value)⟩
  | refused (token : String) (type : Option JavaType) (scalar : occurrence.kind.isScalar = true)
      (written : occurrence.value = .literal token type)
      (refusal : Literal.convert occurrence.kind token = .ok none) :
      Finds configuration occurrence
        ⟨occurrence.kind, some (.literal token type), .skipped .invalidLiteral⟩
  | converted (token : String) (type : Option JavaType) (value : Expression)
      (scalar : occurrence.kind.isScalar = true)
      (written : occurrence.value = .literal token type)
      (conversion : Literal.convert occurrence.kind token = .ok (some value)) :
      Finds configuration occurrence
        ⟨occurrence.kind, some (.literal token type), .inPlace value⟩
  | listed (token : String) (type : Option JavaType)
      (container : occurrence.kind.isContainer = true)
      (written : occurrence.value = .literal token type)
      (inline : configuration.inlineContainerLiterals = true) :
      Finds configuration occurrence
        ⟨occurrence.kind, some (.literal token type), .inPlace (Literal.toArray token)⟩
  | literalKey (token : String) (type : Option JavaType)
      (container : occurrence.kind.isContainer = true)
      (written : occurrence.value = .literal token type)
      (separate : configuration.inlineContainerLiterals = false) :
      Finds configuration occurrence
        ⟨occurrence.kind, some (.literal token type),
          .keyed (.literal occurrence.file token) (.literal token type)⟩
  | symbolKey (anchor : Anchor) (symbol : Symbol) (stored : occurrence.kind.isStored = true)
      (found : Anchor.ofExpression? occurrence.value = some anchor)
      (named : anchor.symbol? = some symbol) :
      Finds configuration occurrence
        ⟨occurrence.kind, some anchor,
          .keyed (.symbol occurrence.file symbol occurrence.kind.storage) anchor⟩

/-- A literal that anchors a stored kind is refused, converted, listed or given a key. -/
theorem outcome_finds (configuration : Configuration) (occurrence : Occurrence) (token : String)
    (type : Option JavaType) (outcome : Outcome) (stored : occurrence.kind.isStored = true)
    (written : occurrence.value = .literal token type)
    (settled : outcomeOf configuration occurrence.file occurrence.kind (.literal token type) =
      .ok outcome) :
    Finds configuration occurrence ⟨occurrence.kind, some (.literal token type), outcome⟩ := by
  by_cases scalar : occurrence.kind.isScalar = true
  · simp only [outcomeOf, scalar, if_true] at settled
    cases conversion : Literal.convert occurrence.kind token with
    | error numeral => simp [conversion, Except.map] at settled
    | ok answer =>
      cases answer with
      | none =>
        obtain rfl : Outcome.skipped .invalidLiteral = outcome := by
          simpa [conversion, Except.map] using settled
        exact .refused token type scalar written conversion
      | some value =>
        obtain rfl : Outcome.inPlace value = outcome := by
          simpa [conversion, Except.map] using settled
        exact .converted token type value scalar written conversion
  · have container := occurrence.kind.container_of_stored stored scalar
    cases inline : configuration.inlineContainerLiterals with
    | true =>
      obtain rfl : Outcome.inPlace (Literal.toArray token) = outcome := by
        simpa [outcomeOf, scalar, inline] using settled
      exact .listed token type container written inline
    | false =>
      obtain rfl : Outcome.keyed (.literal occurrence.file token) (.literal token type) =
          outcome := by
        simpa [outcomeOf, scalar, inline] using settled
      exact .literalKey token type container written inline

/-- The analysis in terms of the kind of the occurrence. -/
theorem analyse_eq (configuration : Configuration) (occurrence : Occurrence) :
    occurrence.analyse configuration =
      if occurrence.kind = .unsupported then
        .ok ⟨occurrence.kind, none, .skipped .unsupportedKind⟩
      else if occurrence.kind = .passThroughString then .ok ⟨occurrence.kind, none, .passedThrough⟩
      else match Anchor.ofExpression? occurrence.value with
        | none => .ok ⟨occurrence.kind, none, .skipped (anchorlessReason occurrence.value)⟩
        | some anchor =>
          (outcomeOf configuration occurrence.file occurrence.kind anchor).map fun outcome =>
            ⟨occurrence.kind, some anchor, outcome⟩ := rfl

/-- An analysis that ends makes one of the listed findings. -/
theorem analyse_finds (configuration : Configuration) (occurrence : Occurrence)
    (analysis : Analysis) (analysed : occurrence.analyse configuration = .ok analysis) :
    Finds configuration occurrence analysis := by
  rw [analyse_eq] at analysed
  by_cases unfit : occurrence.kind = .unsupported
  · obtain rfl : Analysis.mk .unsupported none (.skipped .unsupportedKind) = analysis := by
      simpa [unfit] using analysed
    exact .unsupported unfit
  by_cases string : occurrence.kind = .passThroughString
  · obtain rfl : Analysis.mk .passThroughString none .passedThrough = analysis := by
      simpa [string] using analysed
    exact .passed string
  have stored : occurrence.kind.isStored = true := occurrence.kind.stored_iff.mpr ⟨unfit, string⟩
  rw [if_neg unfit, if_neg string] at analysed
  cases found : Anchor.ofExpression? occurrence.value with
  | none =>
    rw [found] at analysed
    obtain rfl := Except.ok.inj analysed
    exact .anchorless stored found
  | some anchor =>
    rw [found] at analysed
    cases settled : outcomeOf configuration occurrence.file occurrence.kind anchor with
    | error numeral => simp [settled, Except.map] at analysed
    | ok outcome =>
      obtain rfl : Analysis.mk occurrence.kind (some anchor) outcome = analysis := by
        simpa [settled, Except.map] using analysed
      have written := Anchor.expression_of_ofExpression? found
      cases anchor with
      | literal token type =>
        exact outcome_finds configuration occurrence token type outcome stored written.symm settled
      | localSymbol name symbol =>
        obtain rfl := Except.ok.inj settled
        exact .symbolKey _ symbol stored found rfl
      | qualified target name type symbol =>
        obtain rfl := Except.ok.inj settled
        exact .symbolKey _ symbol stored found rfl

/-- The kind that an analysis reports is that of the member. -/
theorem analysis_kind (configuration : Configuration) (occurrence : Occurrence)
    (analysis : Analysis) (analysed : occurrence.analyse configuration = .ok analysis) :
    analysis.kind = occurrence.kind := by
  cases analyse_finds configuration occurrence analysis analysed with
  | unsupported unfit => exact unfit.symm
  | passed string => exact string.symm
  | _ => rfl

/-- A key is given to a container literal, in the mode that keeps literals apart, or to an anchor
with a symbol; it has the file of the occurrence either way. -/
theorem analyse_keyed (configuration : Configuration) (occurrence : Occurrence)
    (analysis : Analysis) (key : Key) (anchor : Anchor)
    (analysed : occurrence.analyse configuration = .ok analysis)
    (keyed : analysis.outcome = .keyed key anchor) :
    occurrence.kind.isStored = true ∧ Anchor.ofExpression? occurrence.value = some anchor ∧
      ((∃ token type, occurrence.kind.isContainer = true ∧ anchor = .literal token type ∧
          key = .literal occurrence.file token) ∨
        ∃ symbol, anchor.symbol? = some symbol ∧
          key = .symbol occurrence.file symbol occurrence.kind.storage) := by
  cases analyse_finds configuration occurrence analysis analysed with
  | literalKey token type container written separate =>
    obtain ⟨rfl, rfl⟩ := Outcome.keyed.inj keyed
    refine ⟨?_, ?_, .inl ⟨token, type, container, rfl, rfl⟩⟩
    · simp [Kind.isStored, container]
    · rw [written]
      rfl
  | symbolKey found symbol stored anchored named =>
    obtain ⟨rfl, rfl⟩ := Outcome.keyed.inj keyed
    exact ⟨stored, anchored, .inr ⟨symbol, named, rfl⟩⟩
  | _ => exact absurd keyed (by simp)

/-- The search through a member reads the holder and the attribute, and nothing else of the
configuration. -/
theorem ofMember_congr (configuration other : Configuration)
    (holder : other.attributeHolder = configuration.attributeHolder)
    (name : other.attributeName = configuration.attributeName) :
    ofMember other = ofMember configuration := by
  have annotations : ∀ file position member index uses,
      ofAnnotations other file position member index uses =
        ofAnnotations configuration file position member index uses := by
    intro file position member index uses
    induction uses generalizing index with
    | nil => rfl
    | cons use rest inductionHypothesis =>
      rw [ofAnnotations, ofAnnotations, inductionHypothesis, ofAnnotationUse?, ofAnnotationUse?,
        holder, name]
  funext file position member
  exact annotations file position member 0 member.annotations

/-- The search through a file reads the holder and the attribute, and nothing else of the
configuration. -/
theorem ofUnit_congr (configuration other : Configuration)
    (holder : other.attributeHolder = configuration.attributeHolder)
    (name : other.attributeName = configuration.attributeName) (unit : CompilationUnit) :
    ofUnit other unit = ofUnit configuration unit := by
  have classes : ofClass other = ofClass configuration := by
    funext file position
    rw [ofClass, ofClass, ofMember_congr configuration other holder name]
  rw [ofUnit, ofUnit, classes]

end Occurrence

/-- A constant `X` behind a class name. Its symbol has the owner that is given. -/
def constantBehind (qualifier : String) (owner : Option ClassType) : Anchor :=
  .qualified (.identifier ⟨qualifier, none, some (.named (.topLevel ("p." ++ qualifier)))⟩)
    ⟨"X", some ⟨owner, "X", none⟩, none⟩ none ⟨owner, "X", none⟩

/-- The mode in which a literal for a container gets an entry. -/
def literalsApart : Configuration := { inlineContainerLiterals := false }

/-- A field whose default value is to be migrated. -/
def annotatedField (type : JavaType) (value : Anchor) : Member :=
  .field {
    name := "field"
    type := some type
    modifiers := []
    annotations := [{
      type := .topLevel "x.y.z.Property"
      name := "Property"
      arguments := some [.assignment ⟨"defaultValue", none, none⟩ value.expression] }]
    initializer := none }

/-- A file of one class. -/
def singleClass (body : List Member) : CompilationUnit where
  sourcePath := "M.java"
  package := some "p"
  imports := []
  classes := [⟨⟨"M", .topLevel "p.M", [], []⟩, body⟩]

end TypedDefaults
