import TypedDefaults.Proofs.NodeSchema
import TypedDefaults.Proofs.Restoring

/-!
# Readers and revised documents

What a reader gives for a value it gives for what may stand in the place of the
value, and that nests no deeper. The combinators of readers carry this from parts
to wholes: a reader of fields looks only at declared names, and a field that was
left out had the default that is taken for it. Depth belongs to the same argument,
since a node that is read has a field, so that added scalars do not make it nest
deeper.
-/

namespace TypedDefaults

namespace Document

section Following

variable {α β : Type} {json other : Json}

/-- What is read of a value is read of what stands in its place, which nests no deeper. -/
def Follows (json other : Json) (before after : Checked α) : Prop :=
  ∀ value, before = .valid value → after = .valid value ∧ other.nesting ≤ json.nesting

/-- A field that must be present is, and what stands in the place of its value nests no deeper. -/
structure FieldRule.Kept (rule : FieldRule) (json other : Json) : Prop where
  present : rule.default = none → ∃ value, json.field? rule.name = some value
  shallower : ∀ value result, json.field? rule.name = some value →
    other.field? rule.name = some result → result.nesting ≤ value.nesting

/-- What is read of the fields with some rules is read of their revisions. -/
def Agrees (rules : List FieldRule) (json other : Json) (before after : Checked α) : Prop :=
  ∀ value, before = .valid value → after = .valid value ∧ ∀ rule ∈ rules, rule.Kept json other

/-- A value is read as itself. -/
theorem Follows.refl (json : Json) (reading : Checked α) : Follows json json reading reading :=
  fun _ read => ⟨read, Nat.le_refl _⟩

/-- A value changed by a function was given. -/
theorem map_valid {function : α → β} {reading : Checked α} {result : β}
    (given : function <$> reading = .valid result) :
    ∃ value, reading = .valid value ∧ function value = result := by
  cases reading with
  | valid value => exact ⟨value, rfl, Checked.valid.inj given⟩
  | invalid issues => cases given

/-- Two values are given exactly if each is. -/
theorem both_valid_iff {first : Checked α} {second : Checked β} (values : α × β) :
    first.both second = .valid values ↔
      first = .valid values.1 ∧ second = .valid values.2 := by
  cases first <;> cases second <;> simp [Checked.both, Prod.ext_iff]

/-- A function and its argument were both given. -/
theorem seq_valid {functionReading : Checked (α → β)} {reading : Checked α} {result : β}
    (given : functionReading <*> reading = .valid result) :
    ∃ function value, functionReading = .valid function ∧ reading = .valid value ∧
      function value = result := by
  obtain ⟨⟨function, value⟩, both, same⟩ := map_valid given
  obtain ⟨functionGiven, valueGiven⟩ := (both_valid_iff _).mp both
  exact ⟨function, value, functionGiven, valueGiven, same⟩

/-- A value that is given one step further in is given. -/
theorem under_valid_iff {step : Step} {reading : Checked α} {value : α} :
    reading.under step = .valid value ↔ reading = .valid value := by
  cases reading <;> simp [Checked.under]

namespace Agrees

variable {rules others : List FieldRule}

/-- A function of what is read of fields. -/
theorem map {before after : Checked α} (agrees : Agrees rules json other before after)
    (function : α → β) : Agrees rules json other (function <$> before) (function <$> after) := by
  intro result read
  obtain ⟨value, given, rfl⟩ := map_valid read
  obtain ⟨again, kept⟩ := agrees value given
  exact ⟨map_given again, kept⟩

/-- A function and its argument that are read of different fields. -/
theorem seq {function functionAgain : Checked (α → β)} {argument argumentAgain : Checked α}
    (first : Agrees rules json other function functionAgain)
    (second : Agrees others json other argument argumentAgain) :
    Agrees (rules ++ others) json other (function <*> argument)
      (functionAgain <*> argumentAgain) := by
  intro result read
  obtain ⟨apply, value, givenFunction, givenValue, rfl⟩ := seq_valid read
  obtain ⟨functionSame, firstKept⟩ := first apply givenFunction
  obtain ⟨valueSame, secondKept⟩ := second value givenValue
  exact ⟨seq_given functionSame valueSame, List.forall_mem_append.mpr ⟨firstKept, secondKept⟩⟩

end Agrees

/-- Readers of parts follow if what is read of a part is read of what stands in its place. -/
def PartsFollow (slot : Slot) (read : Part json → Checked α) (readAgain : Part other → Checked α) :
    Prop :=
  ∀ (part : Part json) (revised : Part other), Revised slot part.val revised.val →
    Follows part.val revised.val (read part) (readAgain revised)

/-- What is found under one name in each of two objects keeps its rule. -/
theorem FieldRule.kept_of_found {rule : FieldRule} {value revised : Json}
    (before : json.field? rule.name = some value) (after : other.field? rule.name = some revised)
    (shallower : revised.nesting ≤ value.nesting) : rule.Kept json other := by
  refine ⟨fun _ => ⟨value, before⟩, fun first second foundFirst foundSecond => ?_⟩
  obtain rfl := Option.some.inj (before.symm.trans foundFirst)
  obtain rfl := Option.some.inj (after.symm.trans foundSecond)
  exact shallower

/-- A rule with a default is kept where nothing is found in the revision. -/
theorem FieldRule.kept_of_absent {rule : FieldRule} {default : Json}
    (optional : rule.default = some default) (after : other.field? rule.name = none) :
    rule.Kept json other := by
  refine ⟨fun demanded => ?_, fun _ _ _ found => ?_⟩
  · cases demanded.symm.trans optional
  · cases found.symm.trans after

/-- A field that is there is read from its part. -/
theorem required_of_field? {name : String} {written : Json}
    (found : json.field? name = some written) (read : Part json → Checked α) :
    required name json read = (read ⟨written, Json.sizeOf_field? found⟩).under (.name name) := by
  rw [required, part?_of_field? found]

/-- A field that is there is read from its part, whatever its default. -/
theorem defaulted_of_field? {name : String} {written : Json}
    (found : json.field? name = some written) (default : α) (read : Part json → Checked α) :
    defaulted name json default read =
      (read ⟨written, Json.sizeOf_field? found⟩).under (.name name) := by
  rw [defaulted, part?_of_field? found]

/-- A name that is not found has no part. -/
theorem part?_of_absent {name : String} (absent : json.field? name = none) :
    part? name json = none := by
  unfold part?
  split
  case h_1 part found => cases found.symm.trans absent
  case h_2 => rfl

/-- A field that is there before and after is read of a revision. -/
theorem field_agrees {rule : FieldRule} {value revised : Json} {read : Part json → Checked α}
    {readAgain : Part other → Checked α} (before : json.field? rule.name = some value)
    (after : other.field? rule.name = some revised) (inside : Revised rule.slot value revised)
    (follow : PartsFollow rule.slot read readAgain) (step : Step) :
    Agrees [rule] json other ((read ⟨value, Json.sizeOf_field? before⟩).under step)
      ((readAgain ⟨revised, Json.sizeOf_field? after⟩).under step) := by
  intro result given
  rw [under_valid_iff] at given ⊢
  rw [List.forall_mem_singleton]
  obtain ⟨again, shallower⟩ := follow ⟨value, _⟩ ⟨revised, _⟩ inside result given
  exact ⟨again, FieldRule.kept_of_found before after shallower⟩

/-- A field that must be present is read of a revision. -/
theorem required_agrees {name : String} {slot : Slot} {read : Part json → Checked α}
    {readAgain : Part other → Checked α} (found : (FieldRule.needed name slot).Found json other)
    (follow : PartsFollow slot read readAgain) :
    Agrees [.needed name slot] json other (required name json read)
      (required name other readAgain) := by
  cases found with
  | both value revised before after inside =>
    have here : json.field? name = some value := before
    have there : other.field? name = some revised := after
    rw [required_of_field? here, required_of_field? there]
    exact field_agrees before after inside follow (.name name)
  | neither before _ =>
    have here : json.field? name = none := before
    intro result given
    rw [required, part?_of_absent here] at given
    cases given
  | dropped value before default after => cases default

/-- A field that may be left out is read of a revision if its default is what is read of the value
that stands for it. -/
theorem defaulted_agrees {name : String} {slot : Slot} {written : Json} {default : α}
    {read : Part json → Checked α} {readAgain : Part other → Checked α}
    (found : (FieldRule.mk name slot (some written)).Found json other)
    (restores : Restores read written default) (follow : PartsFollow slot read readAgain) :
    Agrees [⟨name, slot, some written⟩] json other (defaulted name json default read)
      (defaulted name other default readAgain) := by
  have absent (there : other.field? name = none) :
      defaulted name other default readAgain = .valid default ∧
        ∀ rule ∈ [FieldRule.mk name slot (some written)], rule.Kept json other := by
    rw [defaulted, part?_of_absent there, List.forall_mem_singleton]
    exact ⟨rfl, FieldRule.kept_of_absent rfl there⟩
  cases found with
  | both value revised before after inside =>
    have here : json.field? name = some value := before
    have there : other.field? name = some revised := after
    rw [defaulted_of_field? here, defaulted_of_field? there]
    exact field_agrees before after inside follow (.name name)
  | neither before after =>
    have here : json.field? name = none := before
    intro result given
    rw [defaulted, part?_of_absent here] at given
    obtain rfl := Checked.valid.inj given
    exact absent after
  | dropped value before dropped after =>
    obtain rfl := Option.some.inj dropped
    intro result given
    rw [defaulted_restored before restores] at given
    obtain rfl := Checked.valid.inj given
    exact absent after

/-- Where no node may stand, a value stays. -/
theorem Revised.plain (revised : Revised .plain json other) : other = json := by
  cases revised
  rfl

/-- Where no node may stand, a reader follows if it looks only at the value of a part. -/
theorem plain_follow (read : (json : Json) → Part json → Checked α)
    (looks : ∀ (part : Part json) (revised : Part other), revised.val = part.val →
      read other revised = read json part) :
    PartsFollow .plain (read json) (read other) := by
  intro part revised inside
  have same : revised.val = part.val := inside.plain
  rw [looks part revised same, same]
  exact .refl _ _

/-- A string follows. -/
theorem string_follow :
    PartsFollow .plain (string : Part json → Checked String) (string : Part other → _) :=
  plain_follow (fun _ => string) fun _ _ same => by simp only [string, same]

/-- A truth value follows. -/
theorem truth_follow :
    PartsFollow .plain (truth : Part json → Checked Bool) (truth : Part other → _) :=
  plain_follow (fun _ => truth) fun _ _ same => by simp only [truth, same]

/-- Readers of whole values that follow do so in parts. -/
theorem whole_follow {slot : Slot} (read : Json → Checked α)
    (follow : ∀ (part : Part json) (revised : Json), Revised slot part.val revised →
      Follows part.val revised (read part.val) (read revised)) :
    PartsFollow slot (fun part : Part json => read part.val)
      (fun part : Part other => read part.val) :=
  fun part revised inside => follow part revised.val inside

/-- A value that is null stays null, and no other becomes null. -/
theorem Revised.null_iff {slot : Slot} (revised : Revised slot json other) :
    other = .null ↔ json = .null := by
  cases revised with
  | same => rfl
  | elements => simp
  | own _ _ _ fields =>
    cases fields
    simp
  | chosen _ _ _ _ _ _ fields =>
    cases fields
    simp

/-- A value that is not null is read as one that is there. -/
theorem nullable_of_ne_null {read : Part json → Checked α} {part : Part json}
    (present : part.val ≠ .null) : nullable read part = some <$> read part := by
  rw [nullable]
  split
  case h_1 absent => exact absurd absent present
  case h_2 => rfl

/-- A value that may be null follows if the value there does. -/
theorem nullable_follow {slot : Slot} {read : Part json → Checked α}
    {readAgain : Part other → Checked α} (follow : PartsFollow slot read readAgain) :
    PartsFollow slot (nullable read) (nullable readAgain) := by
  intro part revised inside
  by_cases null : part.val = .null
  · have nullAgain : revised.val = .null := inside.null_iff.mpr null
    rw [restores_absent read part null, restores_absent readAgain revised nullAgain, null,
      nullAgain]
    exact .refl _ _
  · intro result given
    rw [nullable_of_ne_null null] at given
    obtain ⟨value, read, rfl⟩ := map_valid given
    obtain ⟨again, shallower⟩ := follow part revised inside value read
    rw [nullable_of_ne_null (inside.null_iff.not.mpr null)]
    exact ⟨map_given again, shallower⟩

/-- A list of values in a slot for lists is a list of values one by one. -/
theorem Revised.list {slot : Slot} {elements : List Json}
    (revised : Revised (.list slot) (.array elements) other) :
    ∃ others, other = .array others ∧ RevisedElements slot elements others := by
  have unchanged (values : List Json) : RevisedElements slot values values := by
    induction values with
    | nil => exact .nil slot
    | cons value rest inductionHypothesis =>
      exact .cons slot value value rest rest (.same slot value) inductionHypothesis
  cases revised with
  | same => exact ⟨elements, rfl, unchanged elements⟩
  | elements _ _ others each => exact ⟨others, rfl, each⟩

/-- A part that is an array has its elements. -/
theorem elements?_array {part : Part json} {elements : List Json}
    (whole : part.val = .array elements) :
    ∃ parts, elements? part = some parts ∧ parts.map Subtype.val = elements := by
  obtain ⟨_, smaller⟩ := part
  obtain rfl := whole
  refine ⟨_, rfl, ?_⟩
  rw [List.map_map]
  exact List.attach_map_subtype_val elements

/-- A list that is read is an array. -/
theorem array_of_listOf {read : Part json → Checked α} {part : Part json} {values : List α}
    (given : listOf read part = .valid values) : ∃ elements, part.val = .array elements := by
  obtain ⟨whole, smaller⟩ := part
  cases whole with
  | array elements => exact ⟨elements, rfl⟩
  | _ => cases given

/-- Elements one by one follow if each does. -/
theorem sequence_follows {slot : Slot} {read : Part json → Checked α}
    {readAgain : Part other → Checked α} (follow : PartsFollow slot read readAgain)
    {parts : List (Part json)} {revised : List (Part other)}
    (inside : RevisedElements slot (parts.map Subtype.val) (revised.map Subtype.val))
    (position : Nat) {values : List α}
    (given : Checked.sequenceFrom position (parts.map read) = .valid values) :
    Checked.sequenceFrom position (revised.map readAgain) = .valid values ∧
      Json.nestingOfElements (revised.map Subtype.val) ≤
        Json.nestingOfElements (parts.map Subtype.val) := by
  induction parts generalizing revised position values with
  | nil =>
    cases revised with
    | nil => exact ⟨given, Nat.le_refl _⟩
    | cons other rest => cases inside
  | cons part rest inductionHypothesis =>
    cases revised with
    | nil => cases inside
    | cons again others =>
      cases inside with
      | cons _ _ _ _ _ head tail =>
        rw [List.map_cons, Checked.sequenceFrom] at given
        obtain ⟨⟨value, later⟩, both, rfl⟩ := map_valid given
        obtain ⟨first, following⟩ := (both_valid_iff _).mp both
        obtain ⟨firstAgain, shallower⟩ := follow part again head value (under_valid_iff.mp first)
        obtain ⟨followingAgain, shallowerRest⟩ := inductionHypothesis tail (position + 1) following
        have placed : (readAgain again).under (.index position) = .valid value :=
          under_valid_iff.mpr firstAgain
        have bothAgain := (both_valid_iff (value, later)).mpr ⟨placed, followingAgain⟩
        rw [List.map_cons, Checked.sequenceFrom, bothAgain]
        refine ⟨rfl, ?_⟩
        simp only [List.map_cons, Json.nestingOfElements]
        omega

/-- An array nests no deeper than another if its elements, of which there are as many, do not. -/
theorem RevisedElements.nesting_le {slot : Slot} {elements others : List Json}
    (each : RevisedElements slot elements others)
    (shallower : Json.nestingOfElements others ≤ Json.nestingOfElements elements) :
    (Json.array others).nesting ≤ (Json.array elements).nesting := by
  cases each with
  | nil => exact Nat.le_refl _
  | cons =>
    rw [Json.nesting_array (List.cons_ne_nil _ _), Json.nesting_array (List.cons_ne_nil _ _)]
    exact Nat.succ_le_succ shallower

/-- A list follows if its elements do. -/
theorem list_follow {slot : Slot} {read : Part json → Checked α}
    {readAgain : Part other → Checked α} (follow : PartsFollow slot read readAgain) :
    PartsFollow (.list slot) (listOf read) (listOf readAgain) := by
  intro part revised inside values given
  obtain ⟨elements, isArray⟩ := array_of_listOf given
  rw [isArray] at inside
  obtain ⟨others, isArrayAgain, each⟩ := inside.list
  obtain ⟨parts, taken, rfl⟩ := elements?_array isArray
  obtain ⟨partsAgain, takenAgain, rfl⟩ := elements?_array isArrayAgain
  rw [listOf, taken] at given
  obtain ⟨again, shallower⟩ := sequence_follows follow each 0 given
  rw [listOf, takenAgain, isArray, isArrayAgain]
  exact ⟨again, each.nesting_le shallower⟩

/-- The value under a name where no node may stand is the same in a revision, or its default was
left out. -/
theorem FieldRule.Found.plain {name : String} {default : Option Json}
    (found : (FieldRule.mk name .plain default).Found json other) :
    other.field? name = json.field? name ∨
      other.field? name = none ∧ json.field? name = default := by
  cases found with
  | both value revised before after inside =>
    have same : revised = value := inside.plain
    exact .inl (after.trans (same ▸ before.symm))
  | neither before after => exact .inl (after.trans before.symm)
  | dropped value before default after => exact .inr ⟨after, before.trans default.symm⟩

/-- A revision of a node that is read nests no deeper if the fields of its class keep their rules,
one of which demands a field. -/
theorem RevisedObject.nesting_le_of_kept {node : NodeClass} {alone : Bool}
    (revision : RevisedObject (node.declared alone) json other)
    (nonempty : json ≠ .object []) (kept : ∀ rule ∈ node.rules, rule.Kept json other) :
    other.nesting ≤ json.nesting := by
  refine revision.nesting_le nonempty (List.forall_mem_cons.mpr ⟨?_, fun rule declared =>
    (kept rule declared).shallower⟩)
  intro value result before after
  rcases (revision.found (node.names_nodup alone) _ List.mem_cons_self).plain with same | dropped
  · have unchanged : result = value := Option.some.inj (after.symm.trans (same.trans before))
    exact Nat.le_of_eq (congrArg Json.nesting unchanged)
  · cases after.symm.trans dropped.1

/-- In a slot of one class, a value stays or is a node with revised fields. -/
theorem Revised.own_cases {node : NodeClass} (inside : Revised (.own node) json other) :
    other = json ∨ RevisedObject (node.declared true) json other := by
  cases inside with
  | same => exact .inl rfl
  | own _ _ _ fields => exact .inr fields

/-- A tag is right in a slot of one fixed class if it is left out or that of the class. -/
theorem ownTag_valid_iff (tag : String) (json : Json) :
    ownTag tag json = .valid () ↔
      json.field? "node" = none ∨ json.field? "node" = some (.string tag) := by
  unfold ownTag
  split
  case h_1 absent => simp [absent]
  case h_2 found present =>
    by_cases same : found = tag <;> simp [present, same, Checked.problem, Checked.under]
  case h_3 value notString present =>
    have different : value ≠ .string tag := fun same => notString tag same
    simp [present, different, Checked.problem, Checked.under]

/-- A node in a slot of its own class is read exactly if it is an object, its fields are read, and
its tag is right. -/
theorem fixedNode_valid_iff {tag : String} {fields : Checked α} {value : α} :
    fixedNode tag json fields = .valid value ↔
      (∃ entries, json = .object entries) ∧ fields = .valid value ∧
        ownTag tag json = .valid () := by
  constructor
  · intro given
    cases json with
    | object entries =>
      obtain ⟨both, isBoth, rfl⟩ := map_valid given
      obtain ⟨read, tagged⟩ := (both_valid_iff both).mp isBoth
      exact ⟨⟨entries, rfl⟩, read, tagged⟩
    | _ => cases given
  · rintro ⟨⟨entries, rfl⟩, read, tagged⟩
    have both := (both_valid_iff (value, ())).mpr ⟨read, tagged⟩
    show (fields.both (ownTag tag (.object entries))).map Prod.fst = _
    rw [both, Checked.map]

/-- A node in a slot of its own class follows if its fields do. -/
theorem own_follows {node : NodeClass} {before after : Checked α}
    (demands : ∃ rule ∈ node.rules, rule.default = none)
    (revision : RevisedObject (node.declared true) json other)
    (agree : (∀ rule ∈ node.rules, rule.Found json other) →
      Agrees node.rules json other before after) :
    Follows json other (fixedNode node.tag json before) (fixedNode node.tag other after) := by
  obtain ⟨tagFound, fieldsFound⟩ :=
    List.forall_mem_cons.mp (revision.found (node.names_nodup true))
  intro value given
  obtain ⟨_, fieldsGiven, tagRight⟩ := fixedNode_valid_iff.mp given
  obtain ⟨again, kept⟩ := agree fieldsFound value fieldsGiven
  have tagRightAgain : ownTag node.tag other = .valid () := by
    rw [ownTag_valid_iff] at tagRight ⊢
    rcases tagFound.plain with same | dropped
    · rwa [same]
    · exact .inl dropped.1
  have nonempty : json ≠ .object [] := by
    rintro rfl
    obtain ⟨rule, among, demanded⟩ := demands
    obtain ⟨value, found⟩ := (kept rule among).present demanded
    cases found
  have objectAgain : ∃ entries, other = .object entries := by
    cases revision
    exact ⟨_, rfl⟩
  exact ⟨fixedNode_valid_iff.mpr ⟨objectAgain, again, tagRightAgain⟩,
    revision.nesting_le_of_kept nonempty kept⟩

/-- A node whose tag is read is what the tag chooses. -/
theorem taggedNode_of_tag {tag : String} {choose : String → Option (Checked α)}
    {fields : Checked α} (tagged : json.field? "node" = some (.string tag))
    (chosen : choose tag = some fields) :
    taggedNode json choose = fields.under (.name tag) := by
  cases json with
  | object entries => simp only [taggedNode, tagged, chosen]
  | _ => cases tagged

/-- A node in a slot for several classes follows if the fields of its class do. -/
theorem chosen_follows {node : NodeClass} {choose chooseAgain : String → Option (Checked α)}
    {before after : Checked α} (tagged : json.field? "node" = some (.string node.tag))
    (revision : RevisedObject (node.declared false) json other)
    (chosen : choose node.tag = some before) (chosenAgain : chooseAgain node.tag = some after)
    (agree : (∀ rule ∈ node.rules, rule.Found json other) →
      Agrees node.rules json other before after) :
    Follows json other (taggedNode json choose) (taggedNode other chooseAgain) := by
  obtain ⟨tagFound, fieldsFound⟩ :=
    List.forall_mem_cons.mp (revision.found (node.names_nodup false))
  have taggedAgain : other.field? "node" = some (.string node.tag) := by
    rcases tagFound.plain with same | dropped
    · rw [same, tagged]
    · cases tagged.symm.trans dropped.2
  have nonempty : json ≠ .object [] := by
    rintro rfl
    cases tagged
  intro value given
  rw [taggedNode_of_tag tagged chosen, under_valid_iff] at given
  obtain ⟨again, kept⟩ := agree fieldsFound value given
  rw [taggedNode_of_tag taggedAgain chosenAgain, under_valid_iff]
  exact ⟨again, revision.nesting_le_of_kept nonempty kept⟩

end Following

end Document

end TypedDefaults
