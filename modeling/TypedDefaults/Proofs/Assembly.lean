import TypedDefaults.Proofs.Depth

/-!
# Documents and their tokens

No token is lost when tokens are put together: what the machine has read so far
is written in its unfinished containers. A text is therefore read as a document
exactly if its tokens are those of the document and the document nests within
the limit, so that texts with the same tokens are read alike.
-/

namespace TypedDefaults.Json

/-- The tokens of elements with a comma behind each. -/
def elementsThenComma (elements : List Json) : List Token :=
  elements.flatMap fun element => element.tokens ++ [.comma]

/-- The tokens of fields with a comma behind each. -/
def fieldsThenComma (fields : List (String × Json)) : List Token :=
  fields.flatMap fun field => .string field.1 :: .colon :: (field.2.tokens ++ [.comma])

/-- The tokens of an array up to its last element and after it. -/
theorem tokens_array_append (elements : List Json) (last : Json) :
    (array (elements ++ [last])).tokens =
      .openArray :: (elementsThenComma elements ++ last.tokens ++ [.closeArray]) := by
  have later (others : List Json) : laterElements (others ++ [last]) =
      .comma :: (elementsThenComma others ++ last.tokens) := by
    induction others with
    | nil => simp [laterElements, elementsThenComma]
    | cons element rest inductionHypothesis =>
      rw [List.cons_append, laterElements, inductionHypothesis]
      simp [elementsThenComma]
  cases elements with
  | nil => simp [tokens, laterElements, elementsThenComma]
  | cons first rest =>
    rw [List.cons_append, tokens, later]
    simp [elementsThenComma]

/-- The tokens of an object up to its last field and after it. -/
theorem tokens_object_append (fields : List (String × Json)) (name : String) (last : Json) :
    (object (fields ++ [(name, last)])).tokens =
      .openObject :: (fieldsThenComma fields ++ .string name :: .colon :: last.tokens ++
        [.closeObject]) := by
  have later (others : List (String × Json)) : laterFields (others ++ [(name, last)]) =
      .comma :: (fieldsThenComma others ++ .string name :: .colon :: last.tokens) := by
    induction others with
    | nil => simp [laterFields, fieldsThenComma]
    | cons field rest inductionHypothesis =>
      obtain ⟨key, value⟩ := field
      rw [List.cons_append, laterFields, inductionHypothesis]
      simp [fieldsThenComma]
  cases fields with
  | nil => simp [tokens, laterFields, fieldsThenComma]
  | cons field rest =>
    obtain ⟨key, value⟩ := field
    rw [List.cons_append, tokens, later]
    simp [fieldsThenComma]

/-- The tokens of an unfinished container up to where its next part may come. -/
def Frame.tokens : Frame → List Token
  | .array elements => .openArray :: elementsThenComma elements.reverse
  | .object fields => .openObject :: fieldsThenComma fields.reverse
  | .field fields name => .openObject :: (fieldsThenComma fields.reverse ++ [.string name, .colon])

/-- The tokens of unfinished containers, the innermost of which comes last. -/
def openTokens : List Frame → List Token
  | [] => []
  | frame :: outer => openTokens outer ++ frame.tokens

namespace Reader

variable {limit : Nat} {frames : List Frame} {reader next : Reader} {token : Token}
  {tokens before : List Token}

/-- The machine as it is after some tokens. -/
inductive HasRead : Reader → List Token → Prop where
  | value (frames : List Frame) : HasRead ⟨frames, .value⟩ (openTokens frames)
  | firstElement (outer : List Frame) :
      HasRead ⟨.array [] :: outer, .firstElement⟩ (openTokens (.array [] :: outer))
  | firstName (outer : List Frame) :
      HasRead ⟨.object [] :: outer, .firstName⟩ (openTokens (.object [] :: outer))
  | name (fields : List (String × Json)) (outer : List Frame) :
      HasRead ⟨.object fields :: outer, .name⟩ (openTokens (.object fields :: outer))
  | colon (fields : List (String × Json)) (name : String) (outer : List Frame) :
      HasRead ⟨.field fields name :: outer, .colon⟩
        (openTokens (.object fields :: outer) ++ [.string name])
  | element (last : Json) (elements : List Json) (outer : List Frame) :
      HasRead ⟨.array (last :: elements) :: outer, .more⟩
        (openTokens (.array elements :: outer) ++ last.tokens)
  | field (name : String) (last : Json) (fields : List (String × Json)) (outer : List Frame) :
      HasRead ⟨.object ((name, last) :: fields) :: outer, .more⟩
        (openTokens (.field fields name :: outer) ++ last.tokens)
  | document (document : Json) : HasRead ⟨[], .nothing document⟩ document.tokens

/-- After a value, the machine has read the containers around it and the value. -/
theorem hasRead_finish (document : Json) (finished : finish frames document = some next) :
    HasRead next (openTokens frames ++ document.tokens) := by
  cases frames with
  | nil =>
    obtain rfl := Option.some.inj finished
    exact .document document
  | cons frame outer =>
    cases frame with
    | array elements =>
      obtain rfl := Option.some.inj finished
      exact .element document elements outer
    | object fields => cases finished
    | field fields name =>
      obtain rfl := Option.some.inj finished
      exact .field name document fields outer

/-- After a token in the place of a value, the machine has read the containers around it and the
token. -/
theorem hasRead_readValue (read : readValue frames token = some next) :
    HasRead next (openTokens frames ++ [token]) := by
  cases token with
  | openArray =>
    obtain rfl := Option.some.inj read
    exact .firstElement frames
  | openObject =>
    obtain rfl := Option.some.inj read
    exact .firstName frames
  | null => exact hasRead_finish .null read
  | boolean value => exact hasRead_finish (.boolean value) read
  | integer value => exact hasRead_finish (.integer value) read
  | decimal value => exact hasRead_finish (.decimal value) read
  | string value => exact hasRead_finish (.string value) read
  | _ => cases read

/-- After a bracket that closes an array, the machine has read the array. -/
theorem hasRead_closeArray {elements : List Json} {outer : List Frame}
    (closed : close (.array elements :: outer) token = some next)
    (read : (array elements.reverse).tokens = before ++ [.closeArray]) :
    HasRead next (openTokens outer ++ before ++ [token]) := by
  cases token with
  | closeArray =>
    rw [List.append_assoc, ← read]
    exact hasRead_finish _ closed
  | _ => cases closed

/-- After a bracket that closes an object, the machine has read the object. -/
theorem hasRead_closeObject {fields : List (String × Json)} {outer : List Frame}
    (closed : close (.object fields :: outer) token = some next)
    (read : (object fields.reverse).tokens = before ++ [.closeObject]) :
    HasRead next (openTokens outer ++ before ++ [token]) := by
  cases token with
  | closeObject =>
    rw [List.append_assoc, ← read]
    exact hasRead_finish _ closed
  | _ => cases closed

/-- After a token in the place of a name, the machine has read the object around it and the
token. -/
theorem hasRead_readName {fields : List (String × Json)} {outer : List Frame}
    (read : readName (.object fields :: outer) token = some next) :
    HasRead next (openTokens (.object fields :: outer) ++ [token]) := by
  cases token with
  | string name =>
    obtain rfl := Option.some.inj read
    exact .colon fields name outer
  | _ => cases read

/-- After an element, the machine has read a comma and waits for the next one, or has read the whole
array. -/
theorem hasRead_afterElement {last : Json} {elements : List Json} {outer : List Frame}
    (stepped : step limit ⟨.array (last :: elements) :: outer, .more⟩ token = some next) :
    HasRead next (openTokens (.array elements :: outer) ++ last.tokens ++ [token]) := by
  have arranged (token : Token) :
      openTokens (.array elements :: outer) ++ last.tokens ++ [token] =
        openTokens outer ++ (.openArray :: (elementsThenComma elements.reverse ++ last.tokens)) ++
          [token] := by
    simp [openTokens, Frame.tokens]
  by_cases comma : token = .comma
  · subst comma
    obtain rfl := Option.some.inj stepped
    have going : openTokens (.array elements :: outer) ++ last.tokens ++ [.comma] =
        openTokens (.array (last :: elements) :: outer) := by
      simp [openTokens, Frame.tokens, elementsThenComma]
    rw [going]
    exact .value _
  · have closed : close (.array (last :: elements) :: outer) token = some next := by
      cases token <;> first | exact absurd rfl comma | exact stepped
    rw [arranged]
    refine hasRead_closeArray closed ?_
    rw [List.reverse_cons, tokens_array_append, List.cons_append]

/-- After a field, the machine has read a comma and waits for the next one, or has read the whole
object. -/
theorem hasRead_afterField {name : String} {last : Json} {fields : List (String × Json)}
    {outer : List Frame}
    (stepped : step limit ⟨.object ((name, last) :: fields) :: outer, .more⟩ token = some next) :
    HasRead next (openTokens (.field fields name :: outer) ++ last.tokens ++ [token]) := by
  have arranged (token : Token) :
      openTokens (.field fields name :: outer) ++ last.tokens ++ [token] =
        openTokens outer ++ (.openObject :: (fieldsThenComma fields.reverse ++
          .string name :: .colon :: last.tokens)) ++ [token] := by
    simp [openTokens, Frame.tokens]
  by_cases comma : token = .comma
  · subst comma
    obtain rfl := Option.some.inj stepped
    have going : openTokens (.field fields name :: outer) ++ last.tokens ++ [.comma] =
        openTokens (.object ((name, last) :: fields) :: outer) := by
      simp [openTokens, Frame.tokens, fieldsThenComma]
    rw [going]
    exact .name _ _
  · have closed : close (.object ((name, last) :: fields) :: outer) token = some next := by
      cases token <;> first | exact absurd rfl comma | exact stepped
    rw [arranged]
    refine hasRead_closeObject closed ?_
    rw [List.reverse_cons, tokens_object_append, List.cons_append]

/-- A token moves the machine on to where it has read the token as well. -/
theorem hasRead_step (already : HasRead reader before)
    (stepped : reader.step limit token = some next) : HasRead next (before ++ [token]) := by
  cases already with
  | value frames => exact hasRead_readValue stepped
  | firstElement outer =>
    simp only [step] at stepped
    split at stepped
    · exact hasRead_closeArray stepped rfl
    · split at stepped
      · exact hasRead_readValue stepped
      · cases stepped
  | firstName outer =>
    simp only [step] at stepped
    split at stepped
    · exact hasRead_closeObject stepped rfl
    · split at stepped
      · exact hasRead_readName stepped
      · cases stepped
  | name fields outer => exact hasRead_readName stepped
  | colon fields name outer =>
    simp only [step] at stepped
    split at stepped
    case isTrue same =>
      obtain rfl := Option.some.inj stepped
      have whole : openTokens (.object fields :: outer) ++ [.string name] ++ [token] =
          openTokens (.field fields name :: outer) := by
        simp [openTokens, Frame.tokens, same]
      rw [whole]
      exact .value _
    case isFalse other => cases stepped
  | element last elements outer => exact hasRead_afterElement stepped
  | field name last fields outer => exact hasRead_afterField stepped
  | document document => cases stepped

/-- The tokens that move the machine on are what it has read. -/
theorem hasRead_run (already : HasRead reader before)
    (ran : reader.run limit tokens = some next) : HasRead next (before ++ tokens) := by
  induction tokens generalizing reader before with
  | nil =>
    obtain rfl := Option.some.inj ran
    rw [List.append_nil]
    exact already
  | cons token rest inductionHypothesis =>
    rw [run_cons] at ran
    obtain ⟨between, stepped, followed⟩ := Option.bind_eq_some_iff.mp ran
    have read : HasRead next (before ++ [token] ++ rest) :=
      inductionHypothesis (hasRead_step already stepped) followed
    rwa [List.append_assoc, List.singleton_append] at read

end Reader

/-- Tokens are put together to a document exactly if they are its tokens and it nests within the
limit. -/
theorem ofTokens?_eq_some_iff (limit : Nat) (tokens : List Token) (document : Json) :
    ofTokens? limit tokens = some document ↔
      tokens = document.tokens ∧ document.nesting ≤ limit := by
  constructor
  · intro assembled
    have same : tokens = document.tokens := by
      unfold ofTokens? at assembled
      split at assembled
      case h_1 found ran =>
        obtain rfl := Option.some.inj assembled
        have read := Reader.hasRead_run (.value []) ran
        cases read
        rfl
      case h_2 => cases assembled
    rw [same, ofTokens?_tokens, Option.ite_none_right_eq_some] at assembled
    exact ⟨same, assembled.1⟩
  · rintro ⟨rfl, within⟩
    rw [ofTokens?_tokens, if_pos within]

/-- A text is read as a document exactly if its tokens are those of the document and the document
nests within the limit. -/
theorem read?_eq_some_iff (text : String) (document : Json) :
    read? text = some document ↔
      tokens? Numeral.digitLimit text = some document.tokens ∧ document.nesting ≤ 200 := by
  have stages : read? text = tokens? Numeral.digitLimit text >>= ofTokens? 200 := rfl
  constructor
  · intro found
    obtain ⟨tokens, scanned, assembled⟩ := Option.bind_eq_some_iff.mp (stages.symm.trans found)
    obtain ⟨rfl, within⟩ := (ofTokens?_eq_some_iff 200 tokens document).mp assembled
    exact ⟨scanned, within⟩
  · rintro ⟨scanned, within⟩
    rw [stages, scanned]
    exact (ofTokens?_eq_some_iff 200 _ document).mpr ⟨rfl, within⟩

end TypedDefaults.Json
