import TypedDefaults.Json.Token
import TypedDefaults.Json.Writer

/-!
# Lexemes of written documents

The writer and the scanner meet in the tokens of a document. A written document
without numbers is scanned into its tokens and the text behind it is scanned on,
in whatever layout and at whatever level. The text behind must not go on with a
character of a bare word: the writer puts a mark or a line break there. In lines
of ASCII a document has printable characters of ASCII and line breaks only.
-/

namespace TypedDefaults.Json

mutual

/-- The tokens of a document. -/
def tokens : Json → List Token
  | .null => [.null]
  | .boolean value => [.boolean value]
  | .integer value => [.integer value]
  | .decimal value => [.decimal value]
  | .string value => [.string value]
  | .array [] => [.openArray, .closeArray]
  | .array (first :: rest) =>
    .openArray :: (first.tokens ++ laterElements rest ++ [.closeArray])
  | .object [] => [.openObject, .closeObject]
  | .object ((name, value) :: rest) =>
    .openObject :: .string name :: .colon :: (value.tokens ++ laterFields rest ++ [.closeObject])

/-- The tokens of elements that follow others. -/
def laterElements : List Json → List Token
  | [] => []
  | element :: rest => .comma :: (element.tokens ++ laterElements rest)

/-- The tokens of fields that follow others. -/
def laterFields : List (String × Json) → List Token
  | [] => []
  | (name, value) :: rest =>
    .comma :: .string name :: .colon :: (value.tokens ++ laterFields rest)

end

/-- A document without numbers. -/
inductive NumberFree : Json → Prop
  | null : NumberFree .null
  | boolean (value : Bool) : NumberFree (.boolean value)
  | string (value : String) : NumberFree (.string value)
  | array {elements : List Json} (parts : ∀ element ∈ elements, NumberFree element) :
      NumberFree (.array elements)
  | object {fields : List (String × Json)} (parts : ∀ field ∈ fields, NumberFree field.2) :
      NumberFree (.object fields)

attribute [simp] NumberFree.null NumberFree.boolean NumberFree.string

/-- An array holds no numbers if its elements hold none. -/
@[simp] theorem numberFree_array_iff (elements : List Json) :
    NumberFree (.array elements) ↔ ∀ element ∈ elements, NumberFree element := by
  constructor
  · rintro (_ | _ | _ | parts | _)
    exact parts
  · exact .array

/-- An object holds no numbers if its fields hold none. -/
@[simp] theorem numberFree_object_iff (fields : List (String × Json)) :
    NumberFree (.object fields) ↔ ∀ field ∈ fields, NumberFree field.2 := by
  constructor
  · rintro (_ | _ | _ | _ | parts)
    exact parts
  · exact .object

namespace Token

/-- The tokens of a text that is scanned on. -/
def resume (limit : Nat) (progress : Progress) (text : List Char) : Option (List Token) :=
  text.foldlM (advance limit) progress >>= finish limit

/-- The text does not go on with a character of a bare word. -/
def Parted (text : List Char) : Prop := ∀ character ∈ text.head?, endsWord character = true

section Scanning

variable {limit : Nat} {before : List Token} {text : List Char}

/-- A scan starts between tokens and with none completed. -/
theorem scan_eq_resume (limit : Nat) (text : List Char) :
    scan limit text = resume limit (.between, []) text := rfl

/-- A step of the machine is the first of a scan. -/
theorem resume_cons {state next : State} {character : Char} {completed : List Token}
    (stepped : step limit state character = some (next, completed)) :
    resume limit (state, before) (character :: text) =
      resume limit (next, completed.reverse ++ before) text := by
  simp [resume, advance, stepped]

/-- A step that completes no token only moves the machine. -/
theorem resume_quiet {state next : State} {character : Char}
    (stepped : step limit state character = some (next, [])) :
    resume limit (state, before) (character :: text) = resume limit (next, before) text := by
  rw [resume_cons stepped, List.reverse_nil, List.nil_append]

/-- Between tokens a character starts what `startToken` says. -/
theorem resume_between (limit : Nat) (before : List Token) (character : Char)
    (text : List Char) :
    resume limit (.between, before) (character :: text) =
      resume limit ((startToken character).1, (startToken character).2.reverse ++ before) text :=
  resume_cons rfl

/-- White space between tokens is passed over. -/
theorem resume_space {character : Char} (space : isSpace character = true) :
    resume limit (.between, before) (character :: text) =
      resume limit (.between, before) text := by
  have started : startToken character = (.between, []) := by simp [startToken, space]
  rw [resume_between, started, List.reverse_nil, List.nil_append]

/-- A mark between tokens is a token. -/
theorem resume_mark {character : Char} {token : Token}
    (started : startToken character = (.between, [token])) :
    resume limit (.between, before) (character :: text) =
      resume limit (.between, token :: before) text := by
  rw [resume_between, started, List.reverse_singleton, List.singleton_append]

/-- A bare word is its token, whether a further token or the end of the text ends it. -/
theorem resume_pending {read : List Char} {token : Token}
    (meant : ofWord? limit read.reverse = some token) (parted : Parted text) :
    resume limit (.word read, before) text = resume limit (.between, token :: before) text := by
  cases text with
  | nil => simp [resume, finish, meant]
  | cons character rest =>
    have ends : endsWord character = true := parted character (by simp)
    have ended : step limit (.word read) character =
        some ((startToken character).1, token :: (startToken character).2) := by
      simp [step, ends, meant]
    rw [resume_cons ended, resume_between]
    simp

/-- Characters that do not end a bare word are added to it. -/
theorem resume_inside {word read : List Char}
    (inside : ∀ character ∈ word, endsWord character = false) :
    resume limit (.word read, before) (word ++ text) =
      resume limit (.word (word.reverse ++ read), before) text := by
  induction word generalizing read with
  | nil => simp
  | cons character rest inductionHypothesis =>
    obtain ⟨firstInside, restInside⟩ := List.forall_mem_cons.mp inside
    have added : step limit (.word read) character = some (.word (character :: read), []) := by
      simp [step, firstInside]
    rw [List.cons_append, resume_quiet added, inductionHypothesis restInside]
    simp

/-- A written word is scanned into its token. -/
theorem resume_word {first : Char} {rest : List Char} {token : Token}
    (started : startToken first = (.word [first], []))
    (inside : ∀ character ∈ rest, endsWord character = false)
    (meant : ofWord? limit (first :: rest) = some token) (parted : Parted text) :
    resume limit (.between, before) (first :: rest ++ text) =
      resume limit (.between, token :: before) text := by
  have opened : step limit .between first = some (.word [first], []) := by simp [step, started]
  rw [List.cons_append, resume_quiet opened, resume_inside inside]
  exact resume_pending (by simpa using meant) parted

/-- A character that does not end a bare word starts one. -/
theorem startToken_of_not_endsWord {character : Char} (inside : endsWord character = false) :
    startToken character = (.word [character], []) := by
  simp only [endsWord, Bool.or_eq_false_iff, decide_eq_false_iff_not,
    Option.isSome_eq_false_iff, Option.isNone_iff_eq_none] at inside
  obtain ⟨⟨notSpace, notQuote⟩, notMark⟩ := inside
  simp [startToken, notSpace, notQuote, notMark]

/-- A written word without a token spoils the document. -/
theorem resume_refused {first : Char} {rest : List Char}
    (inside : ∀ character ∈ first :: rest, endsWord character = false)
    (refused : ofWord? limit (first :: rest) = none) (parted : Parted text) :
    resume limit (.between, before) (first :: rest ++ text) = none := by
  obtain ⟨firstInside, restInside⟩ := List.forall_mem_cons.mp inside
  have opened : step limit .between first = some (.word [first], []) := by
    simp [step, startToken_of_not_endsWord firstInside]
  rw [List.cons_append, resume_quiet opened, resume_inside restInside]
  cases text with
  | nil => simp [resume, finish, refused]
  | cons character others =>
    have ends : endsWord character = true := parted character (by simp)
    simp [resume, advance, step, ends, refused]

/-- A character that stands for itself in a string. -/
theorem resume_plain {read : List Char} {character : Char} (notQuote : character ≠ '"')
    (notBackslash : character ≠ '\\') (printable : ¬character.toNat < 0x20) :
    resume limit (.string read, before) (character :: text) =
      resume limit (.string (character :: read), before) text := by
  have stepped : step limit (.string read) character = some (.string (character :: read), []) := by
    simp [step, notQuote, notBackslash, printable]
  exact resume_quiet stepped

/-- The start of an escape in a string. -/
theorem resume_backslash (limit : Nat) (before : List Token) (read text : List Char) :
    resume limit (.string read, before) ('\\' :: text) =
      resume limit (.escape read, before) text := by
  have stepped : step limit (.string read) '\\' = some (.escape read, []) := by
    simp [step]
  exact resume_quiet stepped

/-- An escape of one letter in a string. -/
theorem resume_escape {read : List Char} {letter meant : Char}
    (escaped : escape? letter = some meant) :
    resume limit (.string read, before) ('\\' :: letter :: text) =
      resume limit (.string (meant :: read), before) text := by
  have notHexadecimal : letter ≠ 'u' := by
    rintro rfl
    simp [escape?] at escaped
  have stepped : step limit (.escape read) letter = some (.string (meant :: read), []) := by
    simp [step, notHexadecimal, escaped]
  rw [resume_backslash, resume_quiet stepped]

/-- A written hexadecimal digit has its value. -/
theorem hexValue?_hexDigit : ∀ value < 16, hexValue? (Text.hexDigit value) = some value := by
  decide

/-- A hexadecimal digit that is not the last of its escape. -/
theorem resume_hexDigit {read : List Char} {high : Option Nat} {digits value digit : Nat}
    (small : digit < 16) (unfinished : digits ≠ 3) :
    resume limit (.unicode read high digits value, before) (Text.hexDigit digit :: text) =
      resume limit (.unicode read high (digits + 1) (value * 16 + digit), before) text := by
  have stepped : step limit (.unicode read high digits value) (Text.hexDigit digit) =
      some (.unicode read high (digits + 1) (value * 16 + digit), []) := by
    simp [step, hexValue?_hexDigit digit small, unfinished]
  exact resume_quiet stepped

/-- The last hexadecimal digit of an escape leads to what the code unit means. -/
theorem resume_lastHexDigit {read : List Char} {high : Option Nat} {value digit : Nat}
    {state : State} (small : digit < 16)
    (meant : afterUnicode read high (value * 16 + digit) = some state) :
    resume limit (.unicode read high 3 value, before) (Text.hexDigit digit :: text) =
      resume limit (state, before) text := by
  have stepped : step limit (.unicode read high 3 value) (Text.hexDigit digit) =
      some (state, []) := by
    simp [step, hexValue?_hexDigit digit small, meant]
  exact resume_quiet stepped

/-- The hexadecimal digits of an escape lead to what the code unit means. -/
theorem resume_hexDigits {read : List Char} {high : Option Nat} {unit : Nat} {state : State}
    (small : unit < 0x10000) (meant : afterUnicode read high unit = some state) :
    resume limit (.unicode read high 0 0, before) (Text.hexDigits 4 unit ++ text) =
      resume limit (state, before) text := by
  have whole : (((0 * 16 + unit / 16 / 16 / 16 % 16) * 16 + unit / 16 / 16 % 16) * 16 +
      unit / 16 % 16) * 16 + unit % 16 = unit := by omega
  simp only [Text.hexDigits, List.nil_append, List.cons_append]
  rw [resume_hexDigit (by omega) (by omega), resume_hexDigit (by omega) (by omega),
    resume_hexDigit (by omega) (by omega), resume_lastHexDigit (by omega) (by rwa [whole])]

/-- The escape of a code unit in a string leads to what the code unit means. -/
theorem resume_writtenUnit {read : List Char} {unit : Nat} {state : State}
    (small : unit < 0x10000) (meant : afterUnicode read none unit = some state) :
    resume limit (.string read, before) (writtenUnit unit ++ text) =
      resume limit (state, before) text := by
  have opened : step limit (.escape read) 'u' = some (.unicode read none 0 0, []) := by
    simp [step]
  rw [writtenUnit, List.cons_append, List.cons_append, resume_backslash, resume_quiet opened,
    resume_hexDigits small meant]

/-- The escape of a second surrogate completes the character of the pair. -/
theorem resume_secondUnit {read : List Char} {high unit : Nat} {state : State}
    (small : unit < 0x10000) (meant : afterUnicode read (some high) unit = some state) :
    resume limit (.expectBackslash read high, before) (writtenUnit unit ++ text) =
      resume limit (state, before) text := by
  have begun : step limit (.expectBackslash read high) '\\' = some (.expectU read high, []) := by
    simp [step]
  have opened : step limit (.expectU read high) 'u' =
      some (.unicode read (some high) 0 0, []) := by
    simp [step]
  rw [writtenUnit, List.cons_append, List.cons_append, resume_quiet begun, resume_quiet opened,
    resume_hexDigits small meant]

/-- The code of a character of the basic plane means the character. -/
theorem afterUnicode_basic (read : List Char) {character : Char}
    (basic : character.toNat < 0x10000) :
    afterUnicode read none character.toNat = some (.string (character :: read)) := by
  have valid : character.toNat < 0xD800 ∨ 0xDFFF < character.toNat ∧ character.toNat < 0x110000 :=
    character.valid
  have notHigh : isHighSurrogate character.toNat = false := by
    simp [isHighSurrogate]; omega
  have notLow : isLowSurrogate character.toNat = false := by
    simp [isLowSurrogate]; omega
  simp [afterUnicode, notHigh, notLow]

/-- The escapes of the code units of a character are scanned into the character. -/
theorem resume_writtenUnits (read : List Char) (character : Char) :
    resume limit (.string read, before) (writtenUnits character ++ text) =
      resume limit (.string (character :: read), before) text := by
  rw [writtenUnits]
  split
  case isTrue basic => exact resume_writtenUnit basic (afterUnicode_basic read basic)
  case isFalse beyond =>
    have valid : character.toNat < 0xD800 ∨
        0xDFFF < character.toNat ∧ character.toNat < 0x110000 := character.valid
    generalize isHigh : 0xD800 + (character.toNat - 0x10000) / 0x400 = high
    generalize isLow : 0xDC00 + (character.toNat - 0x10000) % 0x400 = low
    have first : afterUnicode read none high = some (.expectBackslash read high) := by
      have surrogate : isHighSurrogate high = true := by
        simp [isHighSurrogate]; omega
      simp [afterUnicode, surrogate]
    have pair : pairCharacter high low = character := by
      have code : 0x10000 + (high - 0xD800) * 0x400 + (low - 0xDC00) = character.toNat := by omega
      rw [pairCharacter, code, Char.ofNat_toNat]
    have second : afterUnicode read (some high) low = some (.string (character :: read)) := by
      have surrogate : isLowSurrogate low = true := by
        simp [isLowSurrogate]; omega
      simp [afterUnicode, surrogate, pair]
    rw [List.append_assoc, resume_writtenUnit (by omega) first,
      resume_secondUnit (by omega) second]

/-- A written character of a string is scanned into the character. -/
theorem resume_escapedCharacter (layout : Layout) (read : List Char) (character : Char) :
    resume limit (.string read, before) (escapedCharacter layout character ++ text) =
      resume limit (.string (character :: read), before) text := by
  have named {code : Nat} (same : character.toNat = code) : Char.ofNat code = character := by
    rw [← same, Char.ofNat_toNat]
  simp only [escapedCharacter]
  split
  case isTrue special =>
    have itself : escape? character = some character := by
      rcases (by simpa using special : character = '"' ∨ character = '\\') with rfl | rfl <;> rfl
    exact resume_escape itself
  case isFalse ordinary =>
    obtain ⟨notQuote, notBackslash⟩ : character ≠ '"' ∧ character ≠ '\\' := by
      simpa using ordinary
    split
    case isTrue code => exact resume_escape (by rw [← named code]; rfl)
    split
    case isTrue code => exact resume_escape (by rw [← named code]; rfl)
    split
    case isTrue code => exact resume_escape (by rw [← named code]; rfl)
    split
    case isTrue code => exact resume_escape (by rw [← named code]; rfl)
    split
    case isTrue code => exact resume_escape (by rw [← named code]; rfl)
    split
    case isTrue control =>
      exact resume_writtenUnit (by omega) (afterUnicode_basic read (by omega))
    case isFalse printable =>
      split
      · exact resume_plain notQuote notBackslash printable
      · exact resume_writtenUnits read character

/-- The written characters of a string are scanned into the characters. -/
theorem resume_characters (layout : Layout) (characters read : List Char) :
    resume limit (.string read, before)
        (characters.flatMap (escapedCharacter layout) ++ text) =
      resume limit (.string (characters.reverse ++ read), before) text := by
  induction characters generalizing read with
  | nil => simp
  | cons character rest inductionHypothesis =>
    rw [List.flatMap_cons, List.append_assoc, resume_escapedCharacter, inductionHypothesis]
    simp

/-- A written string is scanned into its token. -/
theorem resume_writtenString (layout : Layout) (value : String) :
    resume limit (.between, before) (writtenString layout value ++ text) =
      resume limit (.between, .string value :: before) text := by
  have closed (read : List Char) : step limit (.string read) '"' =
      some (.between, [.string (String.ofList read.reverse)]) := by
    simp [step]
  have started : startToken '"' = (.string [], []) := rfl
  rw [writtenString, List.append_assoc, List.cons_append, resume_between, started,
    resume_characters, List.singleton_append, resume_cons (closed _)]
  simp

/-- The start of a line is passed over. -/
theorem resume_lineStart (layout : Layout) (level : Nat) :
    resume limit (.between, before) (layout.lineStart level ++ text) =
      resume limit (.between, before) text := by
  have blanks (count : Nat) :
      resume limit (.between, before) (List.replicate count ' ' ++ text) =
        resume limit (.between, before) text := by
    induction count with
    | zero => rfl
    | succ count inductionHypothesis =>
      rw [List.replicate_succ, List.cons_append, resume_space (by decide), inductionHypothesis]
  cases layout with
  | oneLine => rfl
  | lines indent | asciiLines indent =>
    rw [Layout.lineStart, List.cons_append, resume_space (by decide), blanks]

/-- What stands between two parts of a container is scanned into a comma. -/
theorem resume_separator (layout : Layout) (level : Nat) :
    resume limit (.between, before) (layout.separator level ++ text) =
      resume limit (.between, .comma :: before) text := by
  cases layout with
  | oneLine =>
    rw [Layout.separator, List.cons_append, resume_mark rfl, List.cons_append,
      resume_space (by decide), List.nil_append]
  | lines indent | asciiLines indent =>
    rw [Layout.separator, List.cons_append, resume_mark rfl, resume_lineStart]

/-- The name of a field is scanned into the name and a colon. -/
theorem resume_fieldName (layout : Layout) (name : String) :
    resume limit (.between, before) (writtenString layout name ++ ':' :: ' ' :: text) =
      resume limit (.between, .colon :: .string name :: before) text := by
  rw [resume_writtenString, resume_mark rfl, resume_space (by decide)]

end Scanning

/-- A text is parted off by a mark or white space in front of it. -/
theorem parted_cons {character : Char} (ends : endsWord character = true) (text : List Char) :
    Parted (character :: text) := by
  intro first isFirst
  obtain rfl : character = first := by simpa using isFirst
  exact ends

/-- The start of a line and a bracket part off what follows. -/
theorem parted_lineStart (layout : Layout) (level : Nat) {bracket : Char}
    (ends : endsWord bracket = true) (text : List Char) :
    Parted (layout.lineStart level ++ bracket :: text) := by
  cases layout with
  | oneLine => exact parted_cons ends text
  | lines indent | asciiLines indent => exact parted_cons (by decide) _

/-- What stands between two parts of a container parts off what follows. -/
theorem parted_separator (layout : Layout) (level : Nat) (text : List Char) :
    Parted (layout.separator level ++ text) := by
  cases layout with
  | oneLine => exact parted_cons (by decide) _
  | lines indent | asciiLines indent => exact parted_cons (by decide) _

end Token

section Documents

open Token

variable {limit : Nat} {layout : Layout}

/-- A written document is scanned into its tokens, whatever parted text follows it. -/
def Scans (limit : Nat) (layout : Layout) (document : Json) : Prop :=
  ∀ (level : Nat) (text : List Char) (before : List Token), Parted text →
    resume limit (.between, before) (writtenBefore layout level text document) =
      resume limit (.between, document.tokens.reverse ++ before) text

/-- Elements after the first one part off what stands in front of them. -/
theorem parted_elementsBefore (level : Nat) {text : List Char} (elements : List Json)
    (parted : Parted text) : Parted (elementsBefore layout level text elements) := by
  cases elements with
  | nil => rwa [elementsBefore]
  | cons element rest =>
    rw [elementsBefore]
    exact parted_separator layout level _

/-- Fields after the first one part off what stands in front of them. -/
theorem parted_fieldsBefore (level : Nat) {text : List Char} (fields : List (String × Json))
    (parted : Parted text) : Parted (fieldsBefore layout level text fields) := by
  cases fields with
  | nil => rwa [fieldsBefore]
  | cons field rest =>
    obtain ⟨name, value⟩ := field
    rw [fieldsBefore, List.append_assoc]
    exact parted_separator layout level _

/-- Elements after the first one are scanned into their tokens if each element is. -/
theorem resume_elementsBefore {elements : List Json}
    (each : ∀ element ∈ elements, Scans limit layout element) (level : Nat) {text : List Char}
    (parted : Parted text) (before : List Token) :
    resume limit (.between, before) (elementsBefore layout level text elements) =
      resume limit (.between, (laterElements elements).reverse ++ before) text := by
  induction elements generalizing before with
  | nil => simp [elementsBefore, laterElements]
  | cons element rest inductionHypothesis =>
    obtain ⟨firstScans, restScan⟩ := List.forall_mem_cons.mp each
    have here := firstScans level (elementsBefore layout level text rest)
      (.comma :: before) (parted_elementsBefore level rest parted)
    rw [elementsBefore, resume_separator, here, inductionHypothesis restScan]
    simp [laterElements]

/-- Fields after the first one are scanned into their tokens if each value is. -/
theorem resume_fieldsBefore {fields : List (String × Json)}
    (each : ∀ field ∈ fields, Scans limit layout field.2) (level : Nat) {text : List Char}
    (parted : Parted text) (before : List Token) :
    resume limit (.between, before) (fieldsBefore layout level text fields) =
      resume limit (.between, (laterFields fields).reverse ++ before) text := by
  induction fields generalizing before with
  | nil => simp [fieldsBefore, laterFields]
  | cons field rest inductionHypothesis =>
    obtain ⟨name, value⟩ := field
    obtain ⟨firstScans, restScan⟩ := List.forall_mem_cons.mp each
    have here := firstScans level (fieldsBefore layout level text rest)
      (.colon :: .string name :: .comma :: before) (parted_fieldsBefore level rest parted)
    rw [fieldsBefore, List.append_assoc, resume_separator, resume_fieldName, here,
      inductionHypothesis restScan]
    simp [laterFields]

/-- A name is scanned into its token. -/
theorem scans_word {document : Json} {first : Char} {rest : List Char} {token : Token}
    (written : ∀ level text,
      writtenBefore layout level text document = first :: rest ++ text)
    (meaning : document.tokens = [token])
    (started : startToken first = (.word [first], [])) (inside : rest.any endsWord = false)
    (meant : ofWord? limit (first :: rest) = some token) : Scans limit layout document := by
  intro level text before parted
  rw [written, resume_word started (by simpa using inside) meant parted, meaning,
    List.reverse_singleton, List.singleton_append]

/-- A string is scanned into its token. -/
theorem scans_string (value : String) : Scans limit layout (.string value) := by
  intro level text before _
  rw [writtenBefore, resume_writtenString, tokens, List.reverse_singleton, List.singleton_append]

/-- An array is scanned into its tokens if its elements are. -/
theorem scans_array {elements : List Json}
    (each : ∀ element ∈ elements, Scans limit layout element) :
    Scans limit layout (.array elements) := by
  intro level text before parted
  cases elements with
  | nil =>
    rw [writtenBefore, resume_mark rfl, resume_mark rfl, tokens]
    simp
  | cons first rest =>
    obtain ⟨firstScans, restScan⟩ := List.forall_mem_cons.mp each
    have closing : Parted (layout.lineStart level ++ ']' :: text) :=
      parted_lineStart layout level (by decide) text
    have here := firstScans (level + 1)
      (elementsBefore layout (level + 1) (layout.lineStart level ++ ']' :: text) rest)
      (.openArray :: before) (parted_elementsBefore (level + 1) rest closing)
    rw [writtenBefore, List.cons_append, resume_mark rfl, resume_lineStart, here,
      resume_elementsBefore restScan (level + 1) closing, resume_lineStart, resume_mark rfl]
    simp [tokens]

/-- An object is scanned into its tokens if the values of its fields are. -/
theorem scans_object {fields : List (String × Json)}
    (each : ∀ field ∈ fields, Scans limit layout field.2) :
    Scans limit layout (.object fields) := by
  intro level text before parted
  cases fields with
  | nil =>
    rw [writtenBefore, resume_mark rfl, resume_mark rfl, tokens]
    simp
  | cons field rest =>
    obtain ⟨name, value⟩ := field
    obtain ⟨firstScans, restScan⟩ := List.forall_mem_cons.mp each
    have closing : Parted (layout.lineStart level ++ '}' :: text) :=
      parted_lineStart layout level (by decide) text
    have here := firstScans (level + 1)
      (fieldsBefore layout (level + 1) (layout.lineStart level ++ '}' :: text) rest)
      (.colon :: .string name :: .openObject :: before)
      (parted_fieldsBefore (level + 1) rest closing)
    rw [writtenBefore, List.append_assoc, List.cons_append, resume_mark rfl, resume_lineStart,
      resume_fieldName, here, resume_fieldsBefore restScan (level + 1) closing, resume_lineStart,
      resume_mark rfl]
    simp [tokens]

/-- Every document without numbers is scanned into its tokens. -/
theorem NumberFree.scans {document : Json} (free : NumberFree document) :
    Scans limit layout document := by
  induction free with
  | null => exact scans_word (fun _ _ => rfl) rfl rfl rfl rfl
  | boolean value =>
    cases value with
    | true => exact scans_word (fun _ _ => rfl) rfl rfl rfl rfl
    | false => exact scans_word (fun _ _ => rfl) rfl rfl rfl rfl
  | string value => exact scans_string value
  | array _ each => exact scans_array each
  | object _ each => exact scans_object each

/-- The text of a document without numbers has the document's tokens. -/
theorem NumberFree.tokens?_write {document : Json} (free : NumberFree document) :
    tokens? limit (document.write layout) = some document.tokens := by
  have scans : Scans limit layout document := free.scans
  rw [tokens?, write, String.toList_ofList, scan_eq_resume, scans 0 [] [] (by simp [Parted])]
  simp [resume, finish]

end Documents

section AsciiLines

/-- A printable character of ASCII, or a line feed. -/
def isShown (character : Char) : Bool :=
  character = '\n' || 0x20 ≤ character.toNat && character.toNat < 0x7F

/-- The text has printable characters of ASCII and line feeds only. -/
def Ascii (text : List Char) : Prop := ∀ character ∈ text, isShown character = true

instance (text : List Char) : Decidable (Ascii text) :=
  decidable_of_iff (text.all isShown = true) List.all_eq_true

/-- Texts one after the other are ASCII exactly if each is. -/
@[simp] theorem ascii_append_iff (first second : List Char) :
    Ascii (first ++ second) ↔ Ascii first ∧ Ascii second := List.forall_mem_append

/-- A text is ASCII exactly if its first character and the rest are. -/
@[simp] theorem ascii_cons_iff (first : Char) (rest : List Char) :
    Ascii (first :: rest) ↔ isShown first = true ∧ Ascii rest := List.forall_mem_cons

variable {indent : Nat}

/-- Hexadecimal digits are ASCII. -/
theorem ascii_hexDigits (width value : Nat) : Ascii (Text.hexDigits width value) := by
  have digits : ∀ digit < 16, Ascii [Text.hexDigit digit] := by decide
  induction width generalizing value with
  | zero => exact List.forall_mem_nil _
  | succ width inductionHypothesis =>
    rw [Text.hexDigits, ascii_append_iff]
    exact ⟨inductionHypothesis _, digits _ (by omega)⟩

/-- The escape of a code unit is ASCII. -/
theorem ascii_writtenUnit (unit : Nat) : Ascii (writtenUnit unit) := by
  rw [writtenUnit, ascii_cons_iff, ascii_cons_iff]
  exact ⟨by decide, by decide, ascii_hexDigits 4 unit⟩

/-- The escapes of the code units of a character are ASCII. -/
theorem ascii_writtenUnits (character : Char) : Ascii (writtenUnits character) := by
  rw [writtenUnits]
  split
  · exact ascii_writtenUnit _
  · exact (ascii_append_iff ..).mpr ⟨ascii_writtenUnit _, ascii_writtenUnit _⟩

/-- A written character of a string is ASCII. -/
theorem ascii_escapedCharacter (character : Char) :
    Ascii (escapedCharacter (.asciiLines indent) character) := by
  simp only [escapedCharacter]
  split
  case isTrue special =>
    rcases (by simpa using special : character = '"' ∨ character = '\\') with rfl | rfl <;> decide
  case isFalse ordinary =>
    iterate 5
      split
      · decide
    split
    case isTrue control => exact ascii_writtenUnit _
    case isFalse printable =>
      split
      case isTrue kept =>
        have below : character.toNat < 0x7F := by simpa [Layout.keeps] using kept
        have shown : isShown character = true := by
          simp [isShown, below]; omega
        exact List.forall_mem_singleton.mpr shown
      case isFalse foreign => exact ascii_writtenUnits character

/-- A written string is ASCII. -/
theorem ascii_writtenString (value : String) :
    Ascii (writtenString (.asciiLines indent) value) := by
  have characters : Ascii (value.toList.flatMap (escapedCharacter (.asciiLines indent))) := by
    intro character inside
    obtain ⟨source, _, written⟩ := List.mem_flatMap.mp inside
    exact ascii_escapedCharacter source character written
  rw [writtenString, List.cons_append, ascii_cons_iff, ascii_append_iff]
  exact ⟨by decide, characters, by decide⟩

/-- The start of a line is ASCII. -/
theorem ascii_lineStart (level : Nat) : Ascii (Layout.lineStart (.asciiLines indent) level) := by
  have blanks (count : Nat) : Ascii (List.replicate count ' ') := by
    intro character inside
    rw [List.eq_of_mem_replicate inside]
    decide
  rw [Layout.lineStart, ascii_cons_iff]
  exact ⟨by decide, blanks _⟩

/-- What stands between two parts of a container is ASCII. -/
theorem ascii_separator (level : Nat) : Ascii (Layout.separator (.asciiLines indent) level) := by
  rw [Layout.separator, ascii_cons_iff]
  exact ⟨by decide, ascii_lineStart level⟩

/-- A bracket at the start of a line, in front of a text of ASCII, is ASCII. -/
theorem ascii_closing {bracket : Char} (shown : isShown bracket = true) (level : Nat)
    {text : List Char} (ascii : Ascii text) :
    Ascii (Layout.lineStart (.asciiLines indent) level ++ bracket :: text) := by
  rw [ascii_append_iff, ascii_cons_iff]
  exact ⟨ascii_lineStart level, shown, ascii⟩

/-- A document is written in ASCII, in front of any text of ASCII. -/
def WritesAscii (indent : Nat) (document : Json) : Prop :=
  ∀ (level : Nat) (text : List Char), Ascii text →
    Ascii (writtenBefore (.asciiLines indent) level text document)

/-- Elements after the first one are written in ASCII if each element is. -/
theorem ascii_elementsBefore {elements : List Json}
    (each : ∀ element ∈ elements, WritesAscii indent element) (level : Nat) {text : List Char}
    (ascii : Ascii text) : Ascii (elementsBefore (.asciiLines indent) level text elements) := by
  induction elements with
  | nil => rwa [elementsBefore]
  | cons element rest inductionHypothesis =>
    obtain ⟨first, later⟩ := List.forall_mem_cons.mp each
    rw [elementsBefore, ascii_append_iff]
    exact ⟨ascii_separator level, first level _ (inductionHypothesis later)⟩

/-- Fields after the first one are written in ASCII if each value is. -/
theorem ascii_fieldsBefore {fields : List (String × Json)}
    (each : ∀ field ∈ fields, WritesAscii indent field.2) (level : Nat) {text : List Char}
    (ascii : Ascii text) : Ascii (fieldsBefore (.asciiLines indent) level text fields) := by
  induction fields with
  | nil => rwa [fieldsBefore]
  | cons field rest inductionHypothesis =>
    obtain ⟨name, value⟩ := field
    obtain ⟨first, later⟩ := List.forall_mem_cons.mp each
    rw [fieldsBefore, ascii_append_iff, ascii_append_iff, ascii_cons_iff, ascii_cons_iff]
    exact ⟨⟨ascii_separator level, ascii_writtenString name⟩, by decide, by decide,
      first level _ (inductionHypothesis later)⟩

/-- An array is written in ASCII if its elements are. -/
theorem writesAscii_array {elements : List Json}
    (each : ∀ element ∈ elements, WritesAscii indent element) :
    WritesAscii indent (.array elements) := by
  intro level text ascii
  cases elements with
  | nil =>
    rw [writtenBefore, ascii_cons_iff, ascii_cons_iff]
    exact ⟨by decide, by decide, ascii⟩
  | cons first rest =>
    obtain ⟨here, later⟩ := List.forall_mem_cons.mp each
    rw [writtenBefore, List.cons_append, ascii_cons_iff, ascii_append_iff]
    exact ⟨by decide, ascii_lineStart _,
      here (level + 1) _ (ascii_elementsBefore later (level + 1)
        (ascii_closing (by decide) level ascii))⟩

/-- An object is written in ASCII if the values of its fields are. -/
theorem writesAscii_object {fields : List (String × Json)}
    (each : ∀ field ∈ fields, WritesAscii indent field.2) :
    WritesAscii indent (.object fields) := by
  intro level text ascii
  cases fields with
  | nil =>
    rw [writtenBefore, ascii_cons_iff, ascii_cons_iff]
    exact ⟨by decide, by decide, ascii⟩
  | cons field rest =>
    obtain ⟨name, value⟩ := field
    obtain ⟨here, later⟩ := List.forall_mem_cons.mp each
    rw [writtenBefore, List.cons_append, List.cons_append, ascii_cons_iff, ascii_append_iff,
      ascii_append_iff, ascii_cons_iff, ascii_cons_iff]
    exact ⟨by decide, ⟨ascii_lineStart _, ascii_writtenString name⟩, by decide, by decide,
      here (level + 1) _ (ascii_fieldsBefore later (level + 1)
        (ascii_closing (by decide) level ascii))⟩

/-- Every document without numbers is written in ASCII. -/
theorem NumberFree.writesAscii {document : Json} (free : NumberFree document) :
    WritesAscii indent document := by
  induction free with
  | null =>
    intro level text ascii
    rw [writtenBefore, ascii_append_iff]
    exact ⟨by decide, ascii⟩
  | boolean value =>
    intro level text ascii
    rw [writtenBefore, ascii_append_iff]
    exact ⟨by cases value <;> decide, ascii⟩
  | string value =>
    intro level text ascii
    rw [writtenBefore, ascii_append_iff]
    exact ⟨ascii_writtenString value, ascii⟩
  | array _ each => exact writesAscii_array each
  | object _ each => exact writesAscii_object each

/-- The text of a document without numbers in lines of ASCII is ASCII. -/
theorem NumberFree.ascii_write {document : Json} (free : NumberFree document) :
    Ascii (document.write (.asciiLines indent)).toList := by
  rw [write, String.toList_ofList]
  exact free.writesAscii 0 [] (List.forall_mem_nil _)

end AsciiLines

end TypedDefaults.Json
