import Mathlib.Algebra.BigOperators.Group.List.Basic
import TypedDefaults.Proofs.Nesting
import TypedDefaults.Proofs.Recording
import TypedDefaults.Synthesis

/-!
# Synthesized fields

An entry that was made for an occurrence can always be made a field: it has a
template, its anchor can be written again from the outermost class where that is
needed, and the template takes it. So no file of a run is left for want of a
field. The fields of a class stand in one stretch of the new body.
-/

namespace TypedDefaults

open Java

/-- An expression writes an anchor: as it was found, or with the reference to a class for its
qualifier. -/
inductive Anchor.WrittenAs : Anchor → Expression → Prop where
  | found (anchor : Anchor) : anchor.WrittenAs anchor.expression
  | requalified (target : Expression) (name : Identifier) (type : Option JavaType)
      (symbol : Symbol) (owner : ClassType) :
      (Anchor.qualified target name type symbol).WrittenAs (.fieldAccess owner.reference name type)

/-- What writes an anchor can be converted by a field. -/
theorem Anchor.WrittenAs.accepted {anchor : Anchor} {written : Expression}
    (writes : anchor.WrittenAs written) : FieldTemplate.accepts written = true := by
  cases writes with
  | found => cases anchor <;> rfl
  | requalified => rfl

/-- An anchor that was found is found again in its own expression. -/
theorem Anchor.ofExpression?_expression {value : Expression} {anchor : Anchor}
    (anchored : ofExpression? value = some anchor) :
    ofExpression? anchor.expression = some anchor := by
  rw [expression_of_ofExpression? anchored]
  exact anchored

/-- The expression of an anchor can be written for any place in a file. -/
theorem requalify_writes (imports : List Import) (value : Expression) (anchor : Anchor)
    (anchored : Anchor.ofExpression? value = some anchor) :
    ∃ rewritten, requalify imports anchor.expression = .ok rewritten ∧
      anchor.WrittenAs (rewritten.getD anchor.expression) := by
  cases anchor with
  | literal token type => exact ⟨none, rfl, .found _⟩
  | localSymbol name symbol => exact ⟨none, rfl, .found _⟩
  | qualified target name type symbol =>
    have known : name.symbol = some symbol := by
      simpa [Anchor.expression, Anchor.ofExpression?] using Anchor.ofExpression?_expression anchored
    simp only [Anchor.expression, requalify, known]
    cases Anchor.ownerOf symbol target with
    | none => exact ⟨none, rfl, .found (.qualified target name type symbol)⟩
    | some owner =>
      dsimp only
      split
      · exact ⟨none, rfl, .found (.qualified target name type symbol)⟩
      · exact ⟨_, rfl, .requalified target name type symbol owner⟩

/-- A field that is made of an entry has no annotations. -/
theorem Entry.annotations_field (entry : Entry) (imports : List Import) (field : FieldDeclaration)
    (made : entry.field imports = .ok field) : field.annotations = [] := by
  rw [Entry.field] at made
  split at made
  · cases made
  · split at made
    · cases made
    · rw [FieldTemplate.fill] at made
      split at made
      · obtain rfl := Except.ok.inj made
        rfl
      · cases made

/-- A stored kind is stored under a kind with a template. -/
theorem parts_of_stored (kind : Kind) (stored : kind.isStored = true) :
    ∃ type conversion, FieldTemplate.parts? kind.storage = some (type, conversion) := by
  cases kind with
  | passThroughString => cases stored
  | unsupported => cases stored
  | _ => exact ⟨_, _, rfl⟩

/-- An entry made for an occurrence becomes a private field without annotations, which converts the
anchor in the way of the storage kind. -/
theorem Entry.MadeFor.field_exact {configuration : Configuration} {entry : Entry}
    {occurrence : Occurrence} {key : Key} {anchor : Anchor}
    (made : entry.MadeFor configuration occurrence key anchor) (imports : List Import) :
    ∃ type conversion written,
      FieldTemplate.parts? occurrence.kind.storage = some (type, conversion) ∧
      anchor.WrittenAs written ∧
      entry.field imports = .ok {
        name := entry.fieldName
        type := some type
        modifiers := ["private"]
        annotations := []
        initializer := some (conversion.build written) } := by
  obtain ⟨analysis, analysed, outcome⟩ := made.keyed
  obtain ⟨stored, anchored, _⟩ :=
    occurrence.analyse_keyed configuration analysis key anchor analysed outcome
  obtain ⟨type, conversion, parts⟩ := parts_of_stored occurrence.kind stored
  have template : entry.template = some ⟨entry.fieldName, type, conversion⟩ := by
    rw [made.template, FieldTemplate.ofKind?, parts]
    rfl
  have written : ∃ written, entry.anchorIn imports = .ok written ∧ anchor.WrittenAs written := by
    rw [Entry.anchorIn, made.anchor]
    cases entry.context with
    | resolvedLocally => exact ⟨_, rfl, .found anchor⟩
    | requiresScopedTemplate =>
      obtain ⟨rewritten, requalified, writes⟩ :=
        requalify_writes imports occurrence.value anchor anchored
      rw [requalified]
      exact ⟨_, rfl, writes⟩
  obtain ⟨written, anchorIn, writes⟩ := written
  refine ⟨type, conversion, written, parts, writes, ?_⟩
  rw [Entry.field, template]
  simp only [anchorIn, FieldTemplate.fill, writes.accepted, if_true]

namespace Synthesis

/-- The fields that come of the entries due for a class. -/
def made (store : Store) (imports : List Import) (file : String) (declaration : ClassDeclaration) :
    List FieldDeclaration :=
  (due store file declaration).filterMap fun entry => (entry.field imports).toOption

/-- The fields that come of the entries due for a class are those that the entries can be made. -/
theorem mem_made_iff (store : Store) (imports : List Import) (file : String)
    (declaration : ClassDeclaration) (field : FieldDeclaration) :
    field ∈ made store imports file declaration ↔
      ∃ entry ∈ due store file declaration, entry.field imports = .ok field := by
  have filled : ∀ result : Except FieldError FieldDeclaration,
      result.toOption = some field ↔ result = .ok field := by
    intro result
    cases result <;> simp [Except.toOption]
  simp only [made, List.mem_filterMap, filled]

/-- Making fields completes exactly if every entry can be made one. It leaves the state. -/
theorem gives_make {σ : Type} (imports : List Import) (entries : List Entry) (before after : σ)
    (given : List FieldDeclaration) :
    (Work.forEach (make imports) entries : Work Action σ FieldError _).Gives before after given ↔
      (∀ entry ∈ entries, ∃ field, entry.field imports = .ok field) ∧ after = before ∧
        given = entries.filterMap fun entry => (entry.field imports).toOption := by
  induction entries generalizing before given with
  | nil => simp
  | cons entry rest inductionHypothesis =>
    rw [Work.gives_forEach_cons, List.forall_mem_cons, List.filterMap_cons]
    simp only [make, inductionHypothesis, Work.gives_bind, Work.gives_ofExcept, Work.gives_note,
      Work.gives_pure]
    constructor
    · rintro ⟨_, field, _, ⟨_, _, ⟨rfl, filled⟩, _, _, rfl, rfl, rfl⟩, ⟨others, rfl, rfl⟩, rfl⟩
      rw [filled]
      exact ⟨⟨⟨field, rfl⟩, others⟩, rfl, rfl⟩
    · rintro ⟨⟨⟨field, filled⟩, others⟩, rfl, rfl⟩
      rw [filled]
      exact ⟨_, field, _, ⟨_, field, ⟨rfl, rfl⟩, _, (), rfl, rfl, rfl⟩, ⟨others, rfl, rfl⟩, rfl⟩

/-- Making the fields of a class completes exactly if every entry due for it can be made one. It
leaves the state. -/
theorem gives_fields {σ : Type} (store : Store) (imports : List Import) (file : String)
    (declaration : ClassDeclaration) (before after : σ) (given : List FieldDeclaration) :
    (fields store imports file declaration : Work Action σ FieldError _).Gives before after given ↔
      (∀ entry ∈ due store file declaration, ∃ field, entry.field imports = .ok field) ∧
        after = before ∧ given = made store imports file declaration :=
  gives_make imports (due store file declaration) before after given

/-- An entry is put among sorted entries, which stay. -/
theorem insertByName_perm (entry : Entry) (sorted : List Entry) :
    (Store.insertByName entry sorted).Perm (entry :: sorted) := by
  induction sorted with
  | nil => exact List.Perm.refl _
  | cons first rest inductionHypothesis =>
    rw [Store.insertByName]
    split
    · exact List.Perm.refl _
    · exact (inductionHypothesis.cons first).trans (List.Perm.swap entry first rest)

/-- Sorting entries by name rearranges them. -/
theorem sortByName_perm (entries : List Entry) : (Store.sortByName entries).Perm entries := by
  rw [Store.sortByName]
  induction entries using List.reverseRecOn with
  | nil => exact List.Perm.refl _
  | append_singleton before entry inductionHypothesis =>
    rw [List.foldl_append]
    have last := (insertByName_perm entry _).trans (inductionHypothesis.cons entry)
    exact last.trans (List.perm_append_singleton entry before).symm

/-- Sorted entries stand in the order of their names. -/
theorem sortByName_ordered (entries : List Entry) :
    (Store.sortByName entries).Pairwise fun first second => first.fieldName ≤ second.fieldName := by
  have inserted : ∀ (entry : Entry) (sorted : List Entry),
      (sorted.Pairwise fun first second => first.fieldName ≤ second.fieldName) →
        (Store.insertByName entry sorted).Pairwise
          fun first second => first.fieldName ≤ second.fieldName := by
    intro entry sorted ordered
    induction sorted with
    | nil => exact List.pairwise_singleton _ entry
    | cons first rest inductionHypothesis =>
      obtain ⟨least, others⟩ := List.pairwise_cons.mp ordered
      rw [Store.insertByName]
      split
      · rename_i smaller
        have below : entry.fieldName ≤ first.fieldName :=
          String.not_lt.mp (String.lt_asymm smaller)
        refine List.pairwise_cons.mpr ⟨?_, ordered⟩
        intro other inside
        rcases List.mem_cons.mp inside with rfl | later
        · exact below
        · exact String.le_trans below (least other later)
      · rename_i notSmaller
        refine List.pairwise_cons.mpr ⟨?_, inductionHypothesis others⟩
        intro other inside
        rcases List.mem_cons.mp ((insertByName_perm entry rest).mem_iff.mp inside) with rfl | later
        · exact String.not_lt.mp notSmaller
        · exact least other later
  rw [Store.sortByName]
  induction entries using List.reverseRecOn with
  | nil => exact List.Pairwise.nil
  | append_singleton before entry inductionHypothesis =>
    rw [List.foldl_append]
    exact inserted entry _ inductionHypothesis

/-- The entries due for a class are those stored for its file and for its name, if their fields are
not declared yet. -/
theorem mem_due_iff (store : Store) (file : String) (declaration : ClassDeclaration)
    (entry : Entry) :
    entry ∈ due store file declaration ↔
      (∃ key, (key, entry) ∈ store.entries ∧ key.file = file) ∧
        entry.scope.qualifiedName = declaration.header.type.qualifiedName ∧
        entry.fieldName ∉ declaration.declaredNames := by
  rw [due, List.mem_filter, Store.entriesFor, (sortByName_perm _).mem_iff, List.mem_filter,
    Store.entriesOf, List.mem_map]
  simp only [List.mem_filter, decide_eq_true_eq, Bool.not_eq_true', List.contains_eq_mem,
    decide_eq_false_iff_not, and_assoc]
  constructor
  · rintro ⟨⟨⟨key, _⟩, inside, sameFile, rfl⟩, sameScope, absent⟩
    exact ⟨⟨key, inside, sameFile⟩, sameScope, absent⟩
  · rintro ⟨⟨key, inside, sameFile⟩, sameScope, absent⟩
    exact ⟨⟨(key, entry), inside, sameFile, rfl⟩, sameScope, absent⟩

/-- Making the fields of a class does not fail where every stored entry can be made one. -/
theorem not_fails_fields {σ : Type} (store : Store) (imports : List Import) (file : String)
    (declaration : ClassDeclaration)
    (fillable : ∀ stored ∈ store.entries, ∃ field, stored.2.field imports = .ok field)
    (before : σ) (failure : FieldError) :
    ¬(fields store imports file declaration : Work Action σ FieldError _).Fails before failure := by
  intro failed
  obtain ⟨entry, inside, reached, failing⟩ := Work.fails_forEach _ _ before failure failed
  obtain ⟨⟨key, storedAt, _⟩, _⟩ := (mem_due_iff ..).mp inside
  obtain ⟨field, filled⟩ := fillable (key, entry) storedAt
  rw [make, Work.fails_bind, Work.fails_ofExcept, filled] at failing
  rcases failing with refused | ⟨_, _, _, later⟩
  · cases refused
  · simp at later

/-- Between the front and the back of a body is the place for new fields: behind its last field, or
first where it has none. -/
structure FieldPlace (front back : List Member) : Prop where
  behindField : ∀ last ∈ front.getLast?, last.isField = true
  noneBehind : ∀ member ∈ back, ¬member.isField = true

/-- The body with fields has them in one stretch, which stands in the place for them. -/
theorem insertFields_place (fields : List FieldDeclaration) (body : List Member) :
    ∃ front back, body = front ++ back ∧ FieldPlace front back ∧
      insertFields fields body = front ++ (fields.map .field ++ back) := by
  induction body with
  | nil => exact ⟨[], [], rfl, ⟨by simp, by simp⟩, by simp [insertFields]⟩
  | cons member rest inductionHypothesis =>
    rw [insertFields]
    split
    · rename_i holdsField
      obtain ⟨front, back, rfl, place, inserted⟩ := inductionHypothesis
      refine ⟨member :: front, back, rfl, ⟨?_, place.noneBehind⟩, by
        rw [inserted, List.cons_append]⟩
      cases front with
      | nil =>
        -- No field stands behind the member, so it is the one that the body holds.
        rw [List.any_eq_true] at holdsField
        obtain ⟨field, inside, isField⟩ := holdsField
        rcases List.mem_cons.mp inside with rfl | behind
        · simpa using isField
        · exact absurd isField (place.noneBehind field behind)
      | cons second others =>
        rw [List.getLast?_cons_cons]
        exact place.behindField
    · rename_i fieldless
      refine ⟨[], member :: rest, rfl, ⟨by simp, ?_⟩, rfl⟩
      simpa using fieldless

/-- The body with fields has them in one stretch. -/
theorem insertFields_split (fields : List FieldDeclaration) (body : List Member) :
    ∃ front back, body = front ++ back ∧
      insertFields fields body = front ++ (fields.map .field ++ back) := by
  obtain ⟨front, back, whole, _, inserted⟩ := insertFields_place fields body
  exact ⟨front, back, whole, inserted⟩

/-- No fields leave a body as it is. -/
theorem insertFields_nil (body : List Member) : insertFields [] body = body := by
  obtain ⟨front, back, whole, inserted⟩ := insertFields_split [] body
  rw [inserted, List.map_nil, List.nil_append, ← whole]

/-- The body with fields has the fields and its own members. -/
theorem insertFields_perm (fields : List FieldDeclaration) (body : List Member) :
    (insertFields fields body).Perm (fields.map .field ++ body) := by
  obtain ⟨front, back, rfl, inserted⟩ := insertFields_split fields body
  rw [inserted, ← List.append_assoc, ← List.append_assoc]
  exact List.perm_append_comm.append_right back

/-- The nested classes of a body stay in their order. -/
theorem filter_insertFields (fields : List FieldDeclaration) (body : List Member) :
    (insertFields fields body).filter Member.isNested = body.filter Member.isNested := by
  obtain ⟨front, back, rfl, inserted⟩ := insertFields_split fields body
  have none : (fields.map Member.field).filter Member.isNested = [] := by
    simp [List.filter_eq_nil_iff, Member.isNested]
  rw [inserted, List.filter_append, List.filter_append, List.filter_append, none, List.nil_append]

/-- Fields are inserted in the same place when members are changed as what they are. -/
theorem map_insertFields (change : Member → Member) (fields : List FieldDeclaration)
    (body : List Member) (same : ∀ member, (change member).isField = member.isField)
    (fixed : ∀ field ∈ fields, change (.field field) = .field field) :
    (insertFields fields body).map change = insertFields fields (body.map change) := by
  have inserted : (fields.map Member.field).map change = fields.map .field := by
    rw [List.map_map]
    exact List.map_congr_left fixed
  induction body with
  | nil => exact inserted
  | cons member rest inductionHypothesis =>
    have any : (change member :: rest.map change).any Member.isField =
        (member :: rest).any Member.isField := by
      rw [← List.map_cons, List.any_map]
      congr 1
      exact funext same
    rw [insertFields, List.map_cons, insertFields, any]
    split
    · rw [List.map_cons, inductionHypothesis]
    · rw [List.map_append, inserted, List.map_cons]

/-- A body with fields determines the fields, if its other members are known. -/
theorem insertFields_cancel (fields others : List FieldDeclaration) (body : List Member)
    (same : insertFields fields body = insertFields others body) : fields = others := by
  have injective : Function.Injective Member.field := fun first second equal =>
    Member.field.inj equal
  induction body with
  | nil => exact injective.list_map same
  | cons member rest inductionHypothesis =>
    rw [insertFields, insertFields] at same
    split at same
    · exact inductionHypothesis (List.cons.inj same).2
    · exact injective.list_map (List.append_cancel_right same)

/-- A body with fields, and the number of members that it had, determine the members. -/
theorem insertFields_injective (fields others : List FieldDeclaration) (left right : List Member)
    (length : left.length = right.length)
    (same : insertFields fields left = insertFields others right) : left = right := by
  have total : fields.length = others.length := by
    have lengths := congrArg List.length same
    rw [(insertFields_perm fields left).length_eq, (insertFields_perm others right).length_eq,
      List.length_append, List.length_append, List.length_map, List.length_map] at lengths
    omega
  have counted : left.countP Member.isField = right.countP Member.isField := by
    have counts := congrArg (List.countP Member.isField) same
    have all : ∀ given : List FieldDeclaration,
        (given.map Member.field).countP Member.isField = given.length := by
      intro given
      rw [List.countP_map]
      exact List.countP_eq_length.mpr fun _ _ => rfl
    rw [(insertFields_perm fields left).countP_eq, (insertFields_perm others right).countP_eq,
      List.countP_append, List.countP_append, all, all] at counts
    omega
  induction left generalizing right with
  | nil => exact (List.length_eq_zero_iff.mp length.symm).symm
  | cons first rest inductionHypothesis =>
    cases right with
    | nil => cases length
    | cons second remaining =>
      have any : (first :: rest).any Member.isField = (second :: remaining).any Member.isField := by
        rw [Bool.eq_iff_iff, List.any_eq_true, List.any_eq_true, ← List.countP_pos_iff, counted,
          List.countP_pos_iff]
      rw [insertFields, insertFields, any] at same
      split at same
      · obtain ⟨rfl, tails⟩ := List.cons.inj same
        rw [List.countP_cons, List.countP_cons] at counted
        rw [inductionHypothesis remaining (by simpa using length) tails (by omega)]
      · exact (List.append_inj same (by simpa using total)).2

end Synthesis

end TypedDefaults
