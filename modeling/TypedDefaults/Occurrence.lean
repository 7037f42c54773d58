import TypedDefaults.Classification
import TypedDefaults.Configuration.Basic
import TypedDefaults.Literal.Conversion
import TypedDefaults.Store

/-!
# Occurrences

An occurrence is a field or method with the holder annotation, when one of the
annotation's arguments assigns the migrated attribute. Both phases of a run
learn what they know of an occurrence from one analysis, so the key under which
the scan records an entry is the key under which the second one looks it up.
-/

namespace TypedDefaults

open Java

/-- An assignment of the migrated attribute, with its place. -/
structure Occurrence where
  file : String
  position : ClassPosition
  member : Member
  annotationIndex : Nat
  holderUse : AnnotationUse
  attributeIndex : Nat
  value : Expression
  deriving Inhabited

/-- Why an occurrence was left as it is. -/
inductive SkipReason where
  | unsupportedKind
  | unsupportedAnchor
  | unresolvedSymbol
  | invalidLiteral
  | missingEntry
  deriving DecidableEq, Repr, Inhabited

/-- The word for a reason. -/
def SkipReason.word : SkipReason → String
  | unsupportedKind => "unsupported_kind"
  | unsupportedAnchor => "unsupported_anchor"
  | unresolvedSymbol => "unresolved_symbol"
  | invalidLiteral => "invalid_literal"
  | missingEntry => "missing_entry"

/-- What an analysis leads to. A string is passed through; a literal may be converted in place;
other values are stored as entries under a key. -/
inductive Outcome where
  | skipped (reason : SkipReason)
  | passedThrough
  | inPlace (value : Expression)
  | keyed (key : Key) (anchor : Anchor)
  deriving Inhabited

/-- The kind of an occurrence's member, the anchor if one was looked for and found, and the
outcome. -/
structure Analysis where
  kind : Kind
  anchor : Option Anchor
  outcome : Outcome
  deriving Inhabited

/-- The first argument from `index` on that assigns an attribute: its index and the value. -/
def assignedFrom? (name : String) (index : Nat) : List Expression → Option (Nat × Expression)
  | [] => none
  | .assignment target value :: rest =>
    if target.name = name then some (index, value) else assignedFrom? name (index + 1) rest
  | _ :: rest => assignedFrom? name (index + 1) rest

/-- The first argument of an annotation that assigns an attribute. -/
def Java.AnnotationUse.assigned? (use : AnnotationUse) (name : String) :
    Option (Nat × Expression) :=
  assignedFrom? name 0 (use.arguments.getD [])

namespace Occurrence

/-- The occurrence in an annotation of a member, if there is one. -/
def ofAnnotationUse? (configuration : Configuration) (file : String) (position : ClassPosition)
    (member : Member) (annotationIndex : Nat) (use : AnnotationUse) : Option Occurrence :=
  if use.type.qualifiedName = configuration.attributeHolder then
    (use.assigned? configuration.attributeName).map fun (attributeIndex, value) =>
      ⟨file, position, member, annotationIndex, use, attributeIndex, value⟩
  else none

/-- The occurrences in annotations of a member, which stand at the indices from `index` on. -/
def ofAnnotations (configuration : Configuration) (file : String) (position : ClassPosition)
    (member : Member) (index : Nat) : List AnnotationUse → List Occurrence
  | [] => []
  | use :: rest =>
    (ofAnnotationUse? configuration file position member index use).toList ++
      ofAnnotations configuration file position member (index + 1) rest

/-- The occurrences of a member, in the order of its annotations. -/
def ofMember (configuration : Configuration) (file : String) (position : ClassPosition)
    (member : Member) : List Occurrence :=
  ofAnnotations configuration file position member 0 member.annotations

/-- The occurrences of a class, nested classes apart. -/
def ofClass (configuration : Configuration) (file : String) (position : ClassPosition) :
    List Occurrence :=
  position.declaration.body.flatMap (ofMember configuration file position)

/-- The occurrences of a file, those of a class before those of its nested classes. -/
def ofUnit (configuration : Configuration) (unit : CompilationUnit) : List Occurrence :=
  unit.positions.flatMap (ofClass configuration unit.sourcePath)

/-- The class whose member carries the occurrence. -/
def scope (occurrence : Occurrence) : ClassType := occurrence.position.type

/-- The member's name behind the name of its class. -/
def location (occurrence : Occurrence) : String :=
  occurrence.scope.canonicalName ++ "." ++ occurrence.member.declaredName?.getD ""

/-- The reason to skip a value that is no anchor: a name lacks its symbol, other expressions are not
supported. -/
def anchorlessReason : Expression → SkipReason
  | .identifier _ => .unresolvedSymbol
  | .fieldAccess _ _ _ => .unresolvedSymbol
  | _ => .unsupportedAnchor

/-- The outcome for a value with an anchor. -/
def outcomeOf (configuration : Configuration) (file : String) (kind : Kind) (anchor : Anchor) :
    Except OversizedNumeral Outcome :=
  match anchor with
  | .literal token _ =>
    if kind.isScalar then
      (Literal.convert kind token).map fun
        | some value => .inPlace value
        | none => .skipped .invalidLiteral
    else if configuration.inlineContainerLiterals then .ok (.inPlace (Literal.toArray token))
    else .ok (.keyed (.literal file token) anchor)
  | .localSymbol _ symbol => .ok (.keyed (.symbol file symbol kind.storage) anchor)
  | .qualified _ _ _ symbol => .ok (.keyed (.symbol file symbol kind.storage) anchor)

/-- What is to become of an occurrence. -/
def analyse (configuration : Configuration) (occurrence : Occurrence) :
    Except OversizedNumeral Analysis :=
  let kind := Kind.ofType occurrence.member.declaredType
  if kind = .unsupported then .ok ⟨kind, none, .skipped .unsupportedKind⟩
  else if kind = .passThroughString then .ok ⟨kind, none, .passedThrough⟩
  else
    match Anchor.ofExpression? occurrence.value with
    | none => .ok ⟨kind, none, .skipped (anchorlessReason occurrence.value)⟩
    | some anchor =>
      (outcomeOf configuration occurrence.file kind anchor).map fun outcome =>
        ⟨kind, some anchor, outcome⟩

end Occurrence

end TypedDefaults
