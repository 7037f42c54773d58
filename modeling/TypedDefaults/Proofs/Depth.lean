import TypedDefaults.Json.Reader
import TypedDefaults.Proofs.Lexemes

/-!
# Documents and their depth

Put together again, the tokens of a document give the document if its containers
nest within the limit, and nothing if they do not. A container without parts
does not count: only the first part of a container is refused when too many
containers are open. A document without numbers is therefore read back from its
text exactly when it nests within the limit.
-/

namespace TypedDefaults.Json

mutual

/-- How deep the containers of a document nest, those without parts left out. -/
def nesting : Json → Nat
  | .array (first :: rest) => max first.nesting (nestingOfElements rest) + 1
  | .object ((_, value) :: rest) => max value.nesting (nestingOfFields rest) + 1
  | _ => 0

/-- How deep the containers in some elements nest. -/
def nestingOfElements : List Json → Nat
  | [] => 0
  | element :: rest => max element.nesting (nestingOfElements rest)

/-- How deep the containers in some fields nest. -/
def nestingOfFields : List (String × Json) → Nat
  | [] => 0
  | (_, value) :: rest => max value.nesting (nestingOfFields rest)

end

/-- Elements nest within a depth if each does. -/
theorem nestingOfElements_le_iff (elements : List Json) (depth : Nat) :
    nestingOfElements elements ≤ depth ↔ ∀ element ∈ elements, element.nesting ≤ depth := by
  induction elements with
  | nil => simp [nestingOfElements]
  | cons element rest inductionHypothesis =>
    rw [nestingOfElements, Nat.max_le, inductionHypothesis, List.forall_mem_cons]

/-- Fields nest within a depth if each does. -/
theorem nestingOfFields_le_iff (fields : List (String × Json)) (depth : Nat) :
    nestingOfFields fields ≤ depth ↔ ∀ field ∈ fields, field.2.nesting ≤ depth := by
  induction fields with
  | nil => simp [nestingOfFields]
  | cons field rest inductionHypothesis =>
    rw [nestingOfFields, Nat.max_le, inductionHypothesis, List.forall_mem_cons]

/-- An array nests within one more than a depth if its elements nest within the depth. -/
theorem nesting_array_le {elements : List Json} {depth : Nat}
    (each : ∀ element ∈ elements, element.nesting ≤ depth) :
    (array elements).nesting ≤ depth + 1 := by
  cases elements with
  | nil => exact Nat.zero_le _
  | cons first rest =>
    rw [nesting]
    exact Nat.succ_le_succ ((nestingOfElements_le_iff (first :: rest) depth).mpr each)

/-- An object nests within one more than a depth if its fields nest within the depth. -/
theorem nesting_object_le {fields : List (String × Json)} {depth : Nat}
    (each : ∀ field ∈ fields, field.2.nesting ≤ depth) :
    (object fields).nesting ≤ depth + 1 := by
  cases fields with
  | nil => exact Nat.zero_le _
  | cons first rest =>
    rw [nesting]
    exact Nat.succ_le_succ ((nestingOfFields_le_iff (first :: rest) depth).mpr each)

/-- What holds of a document if it holds of its parts holds of every document. -/
theorem inductionOnParts {motive : Json → Prop} (null : motive .null)
    (boolean : ∀ value, motive (.boolean value)) (integer : ∀ value, motive (.integer value))
    (decimal : ∀ value, motive (.decimal value)) (string : ∀ value, motive (.string value))
    (array : ∀ elements, (∀ element ∈ elements, motive element) → motive (.array elements))
    (object : ∀ fields : List (String × Json), (∀ field ∈ fields, motive field.2) →
      motive (.object fields)) : ∀ document, motive document := by
  refine @Json.rec motive (fun elements => ∀ element ∈ elements, motive element)
    (fun fields => ∀ field ∈ fields, motive field.2) (fun field => motive field.2)
    null boolean integer decimal string array object (by simp) ?elements (by simp) ?fields
    (fun _ _ holds => holds)
  case elements =>
    intro first rest firstHolds restHolds
    exact List.forall_mem_cons.mpr ⟨firstHolds, restHolds⟩
  case fields =>
    intro first rest firstHolds restHolds
    exact List.forall_mem_cons.mpr ⟨firstHolds, restHolds⟩

/-- The tokens of a document start with one that does not close a container. -/
theorem tokens_start (document : Json) :
    ∃ first rest, document.tokens = first :: rest ∧ first ≠ .closeArray := by
  cases document with
  | array elements => cases elements <;> exact ⟨.openArray, _, rfl, by decide⟩
  | object fields =>
    cases fields with
    | nil => exact ⟨.openObject, _, rfl, by decide⟩
    | cons field rest => exact ⟨.openObject, _, rfl, by decide⟩
  | _ => exact ⟨_, _, rfl, by simp⟩

namespace Reader

variable {limit : Nat} {frames : List Frame} {tokens rest : List Token}

/-- A run is its first step and the run over the other tokens. -/
theorem run_cons (limit : Nat) (reader : Reader) (token : Token) (tokens : List Token) :
    reader.run limit (token :: tokens) =
      reader.step limit token >>= fun next => next.run limit tokens := by
  rw [run, List.foldlM_cons]
  rfl

/-- The machine after a value that is read between the tokens of a document. -/
def after (limit : Nat) (frames : List Frame) (value : Json) (rest : List Token) :
    Option Reader :=
  finish frames value >>= fun next => next.run limit rest

/-- Where a value may come, the tokens of a document are read as the document if it nests within
what the open containers leave of the limit, and are refused if it does not. -/
def Assembles (limit : Nat) (document : Json) : Prop :=
  ∀ (frames : List Frame) (rest : List Token), frames.length ≤ limit →
    run limit ⟨frames, .value⟩ (document.tokens ++ rest) =
      if frames.length + document.nesting ≤ limit then after limit frames document rest else none

/-- A value of one token is read from it. -/
theorem assembles_single {document : Json} {token : Token} (meaning : document.tokens = [token])
    (flat : document.nesting = 0)
    (read : ∀ frames, readValue frames token = finish frames document) :
    Assembles limit document := by
  intro frames rest room
  rw [meaning, List.singleton_append, run_cons, flat, if_pos (by omega)]
  show readValue frames token >>= _ = _
  rw [read, after]

/-- The first element of an array is read only if the open containers are within the limit. -/
theorem run_firstElement (document : Json) (frames : List Frame) (rest : List Token) :
    run limit ⟨frames, .firstElement⟩ (document.tokens ++ rest) =
      if frames.length ≤ limit then run limit ⟨frames, .value⟩ (document.tokens ++ rest)
      else none := by
  obtain ⟨first, others, starts, notClosing⟩ := tokens_start document
  rw [starts, List.cons_append, run_cons, run_cons]
  simp only [step, if_neg notClosing]
  split
  · rfl
  · rfl

/-- The later elements of an array, and its end. -/
theorem run_laterElements {elements : List Json}
    (each : ∀ element ∈ elements, Assembles limit element) (read : List Json)
    (room : frames.length + 1 ≤ limit) (rest : List Token) :
    run limit ⟨.array read :: frames, .more⟩ (laterElements elements ++ .closeArray :: rest) =
      if frames.length + 1 + nestingOfElements elements ≤ limit then
        after limit frames (.array (read.reverse ++ elements)) rest
      else none := by
  induction elements generalizing read with
  | nil =>
    rw [laterElements, List.nil_append, run_cons, nestingOfElements, if_pos room, List.append_nil]
    rfl
  | cons element others inductionHypothesis =>
    obtain ⟨firstHolds, othersHold⟩ := List.forall_mem_cons.mp each
    have here := firstHolds (.array read :: frames)
      (laterElements others ++ .closeArray :: rest) (by simpa using room)
    rw [laterElements, List.cons_append, run_cons, List.append_assoc]
    show run limit ⟨.array read :: frames, .value⟩ _ = _
    rw [here, nestingOfElements, List.length_cons]
    by_cases deep : frames.length + 1 + element.nesting ≤ limit
    · rw [if_pos deep]
      show run limit ⟨.array (element :: read) :: frames, .more⟩ _ = _
      rw [inductionHypothesis othersHold]
      simp only [List.reverse_cons, List.append_assoc, List.singleton_append]
      congr 1
      simp only [eq_iff_iff]
      omega
    · rw [if_neg deep, if_neg (by omega)]

/-- The name of a field is read up to the place of its value. -/
theorem run_fieldName (limit : Nat) (read : List (String × Json)) (frames : List Frame)
    (name : String) (rest : List Token) :
    run limit ⟨.object read :: frames, .name⟩ (.string name :: .colon :: rest) =
      run limit ⟨.field read name :: frames, .value⟩ rest := by
  rw [run_cons]
  show run limit ⟨.field read name :: frames, .colon⟩ (.colon :: rest) = _
  rw [run_cons]
  rfl

/-- The first field of an object is read only if the open containers are within the limit. -/
theorem run_firstName (limit : Nat) (frames : List Frame) (name : String) (rest : List Token) :
    run limit ⟨frames, .firstName⟩ (.string name :: rest) =
      if frames.length ≤ limit then run limit ⟨frames, .name⟩ (.string name :: rest)
      else none := by
  have notClosing : Token.string name ≠ .closeObject := by simp
  rw [run_cons, run_cons]
  simp only [step, if_neg notClosing]
  split
  · rfl
  · rfl

/-- The later fields of an object, and its end. -/
theorem run_laterFields {fields : List (String × Json)}
    (each : ∀ field ∈ fields, Assembles limit field.2) (read : List (String × Json))
    (room : frames.length + 1 ≤ limit) (rest : List Token) :
    run limit ⟨.object read :: frames, .more⟩ (laterFields fields ++ .closeObject :: rest) =
      if frames.length + 1 + nestingOfFields fields ≤ limit then
        after limit frames (.object (read.reverse ++ fields)) rest
      else none := by
  induction fields generalizing read with
  | nil =>
    rw [laterFields, List.nil_append, run_cons, nestingOfFields, if_pos room, List.append_nil]
    rfl
  | cons field others inductionHypothesis =>
    obtain ⟨name, value⟩ := field
    obtain ⟨firstHolds, othersHold⟩ := List.forall_mem_cons.mp each
    have here := firstHolds (.field read name :: frames)
      (laterFields others ++ .closeObject :: rest) (by simpa using room)
    rw [laterFields, List.cons_append, run_cons, List.cons_append, List.cons_append,
      List.append_assoc]
    show run limit ⟨.object read :: frames, .name⟩ (.string name :: .colon :: _) = _
    rw [run_fieldName, here, nestingOfFields, List.length_cons]
    by_cases deep : frames.length + 1 + value.nesting ≤ limit
    · rw [if_pos deep]
      show run limit ⟨.object ((name, value) :: read) :: frames, .more⟩ _ = _
      rw [inductionHypothesis othersHold]
      simp only [List.reverse_cons, List.append_assoc, List.singleton_append]
      congr 1
      simp only [eq_iff_iff]
      omega
    · rw [if_neg deep, if_neg (by omega)]

/-- An array is read from its tokens if its elements are. -/
theorem assembles_array {elements : List Json}
    (each : ∀ element ∈ elements, Assembles limit element) :
    Assembles limit (.array elements) := by
  intro frames rest room
  cases elements with
  | nil =>
    have flat : (Json.array []).nesting = 0 := rfl
    rw [flat, if_pos (by omega)]
    rfl
  | cons first others =>
    obtain ⟨firstHolds, othersHold⟩ := List.forall_mem_cons.mp each
    rw [tokens, List.cons_append, run_cons, List.append_assoc, List.append_assoc]
    show run limit ⟨.array [] :: frames, .firstElement⟩ _ = _
    rw [run_firstElement, nesting, List.length_cons]
    by_cases opened : frames.length + 1 ≤ limit
    · rw [if_pos opened, firstHolds _ _ (by simpa using opened), List.length_cons]
      by_cases deep : frames.length + 1 + first.nesting ≤ limit
      · rw [if_pos deep]
        show run limit ⟨.array [first] :: frames, .more⟩ _ = _
        rw [List.singleton_append, run_laterElements othersHold [first] opened]
        congr 1
        simp only [eq_iff_iff]
        omega
      · rw [if_neg deep, if_neg (by omega)]
    · rw [if_neg opened, if_neg (by omega)]

/-- An object is read from its tokens if the values of its fields are. -/
theorem assembles_object {fields : List (String × Json)}
    (each : ∀ field ∈ fields, Assembles limit field.2) :
    Assembles limit (.object fields) := by
  intro frames rest room
  cases fields with
  | nil =>
    have flat : (Json.object []).nesting = 0 := rfl
    rw [flat, if_pos (by omega)]
    rfl
  | cons field others =>
    obtain ⟨name, value⟩ := field
    obtain ⟨firstHolds, othersHold⟩ := List.forall_mem_cons.mp each
    rw [tokens, List.cons_append, run_cons, List.cons_append, List.cons_append,
      List.append_assoc, List.append_assoc]
    show run limit ⟨.object [] :: frames, .firstName⟩ _ = _
    rw [run_firstName, nesting, List.length_cons]
    by_cases opened : frames.length + 1 ≤ limit
    · rw [if_pos opened, run_fieldName, firstHolds _ _ (by simpa using opened),
        List.length_cons]
      by_cases deep : frames.length + 1 + value.nesting ≤ limit
      · rw [if_pos deep]
        show run limit ⟨.object [(name, value)] :: frames, .more⟩ _ = _
        rw [List.singleton_append, run_laterFields othersHold [(name, value)] opened]
        congr 1
        simp only [eq_iff_iff]
        omega
      · rw [if_neg deep, if_neg (by omega)]
    · rw [if_neg opened, if_neg (by omega)]

/-- Every document is read from its tokens. -/
theorem assembles (limit : Nat) (document : Json) : Assembles limit document := by
  induction document using inductionOnParts with
  | null => exact assembles_single rfl rfl fun _ => rfl
  | boolean value => exact assembles_single rfl rfl fun _ => rfl
  | integer value => exact assembles_single rfl rfl fun _ => rfl
  | decimal value => exact assembles_single rfl rfl fun _ => rfl
  | string value => exact assembles_single rfl rfl fun _ => rfl
  | array elements each => exact assembles_array each
  | object fields each => exact assembles_object each

end Reader

/-- The tokens of a document are put together to it exactly if it nests within the limit. -/
theorem ofTokens?_tokens (limit : Nat) (document : Json) :
    ofTokens? limit document.tokens =
      if document.nesting ≤ limit then some document else none := by
  have read := Reader.assembles limit document [] [] (by simp)
  rw [List.append_nil, List.length_nil, Nat.zero_add] at read
  rw [ofTokens?, Reader.start, read]
  by_cases deep : document.nesting ≤ limit
  · rw [if_pos deep, if_pos deep]
    rfl
  · rw [if_neg deep, if_neg deep]

/-- A document without numbers is read back from its text exactly if it nests within the limit. -/
theorem NumberFree.readWithin?_write {document : Json} (free : NumberFree document)
    (limits : Limits) (layout : Layout) :
    readWithin? limits (document.write layout) =
      if document.nesting ≤ limits.depth then some document else none := by
  rw [readWithin?, free.tokens?_write]
  exact ofTokens?_tokens limits.depth document

end TypedDefaults.Json
