import TypedDefaults.Proofs.Analyses

/-!
# Symbols that share a field

Occurrences with equal keys are given one field. A key identifies a symbol by
its owner and its name, and the value by the kind under which it is stored. A
declaring class is more than the owner: where the owner is unknown, the class of
the written qualifier takes its place, and the key does not have it. So equal
keys always mean equal names and equal storage, and they mean equal declaring
classes exactly where the owner is known or the qualifiers agree.
-/

namespace TypedDefaults

open Java

/-- The class of the qualifier in front of an anchor. Literals and bare names have none. -/
def Anchor.qualifierClass? : Anchor → Option ClassType
  | .qualified target _ _ _ => target.class?
  | _ => none

/-- The declaring class is the owner, or that of the qualifier where the owner is unknown. -/
theorem Anchor.declaringScope_exact (anchor : Anchor) (symbol : Symbol)
    (named : anchor.symbol? = some symbol) :
    anchor.declaringScope? = symbol.owner.or anchor.qualifierClass? := by
  cases anchor with
  | literal token type => simp [symbol?] at named
  | localSymbol name found =>
    obtain rfl := Option.some.inj named
    simp [declaringScope?, qualifierClass?]
  | qualified target name type found =>
    obtain rfl := Option.some.inj named
    cases owned : found.owner <;> simp [declaringScope?, ownerOf, qualifierClass?, owned]

/-- An occurrence is given a key for the symbol of its anchor. -/
structure Occurrence.KeyedBy (configuration : Configuration) (occurrence : Occurrence) (key : Key)
    (anchor : Anchor) (symbol : Symbol) : Prop where
  analysed : occurrence.analyse configuration =
    .ok ⟨occurrence.kind, some anchor, .keyed key anchor⟩
  named : anchor.symbol? = some symbol

/-- The key of a symbol has the file of the occurrence, the symbol and the storage kind. -/
theorem Occurrence.KeyedBy.key_exact {configuration : Configuration} {occurrence : Occurrence}
    {key : Key} {anchor : Anchor} {symbol : Symbol}
    (keyed : occurrence.KeyedBy configuration key anchor symbol) :
    key = .symbol occurrence.file symbol occurrence.kind.storage := by
  obtain ⟨analysed, named⟩ := keyed
  obtain ⟨_, _, ⟨token, type, _, rfl, _⟩ | ⟨found, identified, rfl⟩⟩ :=
    occurrence.analyse_keyed configuration _ key anchor analysed rfl
  · simp [Anchor.symbol?] at named
  · obtain rfl := Option.some.inj (identified.symm.trans named)
    rfl

/-- Two occurrences whose keys are found as one have anchors of one name, stored in one way. Their
anchors are declared in one class exactly when the owner of the symbol is known, or else the
qualifiers in front of the names are of one class.

Both keys are symbol keys by their analyses. Their identities agree in owner, name and storage kind;
with the owner common, the declaring classes differ only by the qualifiers that replace an unknown
owner. -/
theorem sharing_exact (configuration : Configuration) (first second : Occurrence)
    (firstKey secondKey : Key) (firstAnchor secondAnchor : Anchor)
    (firstSymbol secondSymbol : Symbol)
    (firstKeyed : first.KeyedBy configuration firstKey firstAnchor firstSymbol)
    (secondKeyed : second.KeyedBy configuration secondKey secondAnchor secondSymbol)
    (shared : firstKey.identity = secondKey.identity) :
    firstSymbol.name = secondSymbol.name ∧
      first.kind.storage = second.kind.storage ∧
      (firstAnchor.declaringScope? = secondAnchor.declaringScope? ↔
        firstSymbol.owner.isSome = true ∨
          firstAnchor.qualifierClass? = secondAnchor.qualifierClass?) := by
  rw [firstKeyed.key_exact, secondKeyed.key_exact] at shared
  simp only [Key.identity, Symbol.identity, Key.symbol.injEq, Symbol.mk.injEq] at shared
  obtain ⟨_, ⟨owners, names, _⟩, storage⟩ := shared
  refine ⟨names, storage, ?_⟩
  rw [firstAnchor.declaringScope_exact firstSymbol firstKeyed.named,
    secondAnchor.declaringScope_exact secondSymbol secondKeyed.named, ← owners]
  cases firstSymbol.owner with
  | none => simp
  | some owner => simp

/-- A list and a set, each with a constant of a known owner, behind two class names. -/
def ownedConstants : List Occurrence :=
  let owner := some (ClassType.topLevel "p.A")
  Occurrence.ofUnit {} (singleClass
    [annotatedField (.generic (.topLevel "java.util.List") [.string]) (constantBehind "A" owner),
     annotatedField (.generic (.topLevel "java.util.Set") [.string]) (constantBehind "B" owner)])

/-- Two numbers, each with a constant of an unknown owner, behind two class names. -/
def unownedConstants : List Occurrence :=
  Occurrence.ofUnit {} (singleClass
    [annotatedField (.primitive "int") (constantBehind "A" none),
     annotatedField (.primitive "int") (constantBehind "B" none)])

/-- With the owner known, a list and a set share their key, and their anchors are declared in one
class. -/
theorem sharing_exact_containers :
    ∃ firstKey secondKey firstSymbol secondSymbol,
      ownedConstants[0]!.KeyedBy {} firstKey
        (constantBehind "A" (some (.topLevel "p.A"))) firstSymbol ∧
      ownedConstants[1]!.KeyedBy {} secondKey
        (constantBehind "B" (some (.topLevel "p.A"))) secondSymbol ∧
      firstKey.identity = secondKey.identity ∧
      (constantBehind "A" (some (.topLevel "p.A"))).declaringScope? =
        (constantBehind "B" (some (.topLevel "p.A"))).declaringScope? := by
  refine ⟨_, _, _, _, ⟨rfl, rfl⟩, ⟨rfl, rfl⟩, rfl, ?_⟩
  exact (sharing_exact {} ownedConstants[0]! ownedConstants[1]! _ _ _ _ _ _
    ⟨rfl, rfl⟩ ⟨rfl, rfl⟩ rfl).2.2.mpr (.inl rfl)

/-- With the owner unknown, two constants behind different class names share a key, although they
are declared in different classes. -/
theorem unknown_owners_collapse :
    unownedConstants.length = 2 ∧
    ∃ firstKey secondKey firstSymbol secondSymbol,
      unownedConstants[0]!.KeyedBy {} firstKey (constantBehind "A" none) firstSymbol ∧
      unownedConstants[1]!.KeyedBy {} secondKey (constantBehind "B" none) secondSymbol ∧
      firstKey.identity = secondKey.identity ∧
      (constantBehind "A" none).declaringScope? ≠ (constantBehind "B" none).declaringScope? := by
  refine ⟨rfl, _, _, _, _, ⟨rfl, rfl⟩, ⟨rfl, rfl⟩, rfl, ?_⟩
  decide

end TypedDefaults
