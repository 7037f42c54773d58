import TypedDefaults.CommandLine.KeyValue
import TypedDefaults.Configuration.Load
import TypedDefaults.Proofs.CharacterLiterals
import TypedDefaults.Proofs.Completion
import TypedDefaults.Proofs.ContainerLiterals
import TypedDefaults.Proofs.DecimalLiterals

/-!
# Names in settings

A value on the command line is read as a truth value or a number where it can
be, before anybody asks for a name. No name with a dot in it reads as either,
whatever its length and script, as it starts with a letter. An attribute name
reads as one exactly if it is, in any case, one of five words: those for truth
values, for infinity and for what is no number. Such a name is refused; every
other name gives the configuration that it gives when it is passed as a text.
-/

namespace TypedDefaults

namespace Text

/-- Trimming is dropping on the left and on the right. -/
theorem trimWhile_eq (drops : Char → Bool) (text : List Char) :
    trimWhile drops text = (text.dropWhile drops).rdropWhile drops := rfl

/-- Where the ends of a text are not of a class, nothing is trimmed. -/
theorem trimWhile_eq_self {drops : Char → Bool} {text : List Char}
    (front : ∀ first ∈ text.head?, ¬drops first = true)
    (back : ∀ last ∈ text.getLast?, ¬drops last = true) : trimWhile drops text = text := by
  have left : text.dropWhile drops = text := by
    cases text with
    | nil => rfl
    | cons first rest => exact List.dropWhile_cons_of_neg (front first rfl)
  rw [trimWhile_eq, left, List.rdropWhile_eq_self_iff]
  intro some
  exact back _ (List.getLast?_eq_getLast_of_ne_nil some)

/-- No trimmed text has characters of the class at its ends. -/
theorem trimWhile_ends (drops : Char → Bool) (text : List Char) :
    (∀ first ∈ (trimWhile drops text).head?, ¬drops first = true) ∧
      ∀ last ∈ (trimWhile drops text).getLast?, ¬drops last = true := by
  rw [trimWhile_eq]
  constructor
  · intro first starts
    obtain ⟨dropped, whole⟩ := List.rdropWhile_prefix drops (text.dropWhile drops)
    have within : first ∈ (text.dropWhile drops).head? := by
      rw [← whole, List.head?_append, starts]
      rfl
    have kept := List.head?_dropWhile_not drops text
    rw [within] at kept
    simpa using kept
  · intro last ends
    have some : (text.dropWhile drops).rdropWhile drops ≠ [] := by
      intro empty
      rw [empty] at ends
      cases ends
    rw [List.getLast?_eq_getLast_of_ne_nil some] at ends
    obtain rfl := Option.some.inj ends
    exact List.rdropWhile_last_not drops _ some

/-- Trimming a smaller class from a trimmed text changes nothing. -/
theorem trimWhile_trimWhile {smaller larger : Char → Bool}
    (within : ∀ character, smaller character = true → larger character = true)
    (text : List Char) : trimWhile smaller (trimWhile larger text) = trimWhile larger text := by
  obtain ⟨front, back⟩ := trimWhile_ends larger text
  apply trimWhile_eq_self
  · intro first starts dropped
    exact front first starts (within first dropped)
  · intro last ends dropped
    exact back last ends (within last dropped)

/-- A trimmed name is its own trimmed form. -/
theorem trim_trim (text : String) : trim (trim text) = trim text := by
  rw [trim, trim, String.toList_ofList, trimWhile_trimWhile fun _ => id]

/-- A character that is no digit stays as it is. -/
theorem asciiDigit_of_not_isDigit {character : Char} (foreign : isDigit character = false) :
    asciiDigit character = character := by
  have none : digitValue? character = none := by
    rw [isDigit] at foreign
    simpa using foreign
  rw [asciiDigit, none]

/-- A digit of any script becomes one of ASCII. -/
theorem isDigit_asciiDigit {character : Char} (digit : isDigit character = true) :
    (asciiDigit character).isDigit = true := by
  obtain ⟨value, read⟩ := Option.isSome_iff_exists.mp digit
  have bound := digitValue?_lt read
  have all : ∀ value < 10, (Char.ofNat (0x30 + value)).isDigit = true := by decide
  rw [asciiDigit, read]
  exact all value bound

/-- A text in which the digits become ones of ASCII, and which has none then, had none before. -/
theorem map_asciiDigit_of_none {text : List Char}
    (none : ∀ character ∈ text.map asciiDigit, character.isDigit = false) :
    text.map asciiDigit = text := by
  refine (List.map_congr_left fun character listed => ?_).trans (List.map_id text)
  cases digit : isDigit character with
  | false => exact asciiDigit_of_not_isDigit digit
  | true =>
    have become := none _ (List.mem_map.mpr ⟨character, listed, rfl⟩)
    rw [isDigit_asciiDigit digit] at become
    cases become

/-- A letter of ASCII is a capital or a small one. -/
theorem isAlpha_iff (character : Char) :
    character.isAlpha = true ↔ character.isUpper = true ∨ character.isLower = true :=
  Bool.or_eq_true_iff

/-- The codes of letters of ASCII. -/
theorem toNat_of_isAlpha {character : Char} (letter : character.isAlpha = true) :
    0x41 ≤ character.toNat ∧ character.toNat ≤ 0x5A ∨
      0x61 ≤ character.toNat ∧ character.toNat ≤ 0x7A := by
  rcases (isAlpha_iff character).mp letter with capital | small
  · exact .inl (of_decide_eq_true capital)
  · obtain ⟨least, greatest⟩ := Bool.and_eq_true_iff.mp small
    exact .inr ⟨of_decide_eq_true least, of_decide_eq_true greatest⟩

/-- A character that is no capital of ASCII is its own small letter. -/
theorem toLower_of_not_isUpper {character : Char} (noCapital : character.isUpper = false) :
    character.toLower = character :=
  dif_neg (of_decide_eq_false noCapital)

/-- Letters of ASCII are no digits of any script. -/
theorem not_isDigit_of_isAlpha {character : Char} (letter : character.isAlpha = true) :
    isDigit character = false := by
  have code := toNat_of_isAlpha letter
  rw [Bool.eq_false_iff]
  intro digit
  have ascii := Char.isDigit_iff_toNat.mp (Literal.isDigit_of_ascii (by omega) digit)
  have nine : '9'.toNat = 0x39 := rfl
  omega

/-- What starts no number: a character that is no digit of any script, no sign and no point. -/
structure StartsWord (first : Char) : Prop where
  noDigit : isDigit first = false
  noPlus : first ≠ '+'
  noMinus : first ≠ '-'
  noPoint : first ≠ '.'

/-- Letters of ASCII start words. -/
theorem startsWord_of_isAlpha {first : Char} (letter : first.isAlpha = true) :
    StartsWord first := by
  refine ⟨not_isDigit_of_isAlpha letter, ?_, ?_, ?_⟩
  all_goals
    rintro rfl
    cases letter

/-- A code point of a set is in one of its ranges. -/
theorem CodeRanges.range_of_contains {ranges : CodeRanges} {code : Nat}
    (inside : ranges.contains code = true) :
    ∃ range ∈ ranges, range.1 ≤ code ∧ code ≤ range.2 := by
  induction ranges with
  | nil => cases inside
  | cons range later inductionHypothesis =>
    obtain ⟨lowest, highest⟩ := range
    rw [contains] at inside
    split at inside
    · cases inside
    · split at inside
      · exact ⟨_, List.mem_cons_self, by dsimp only; omega, by assumption⟩
      · obtain ⟨range, listed, covers⟩ := inductionHypothesis inside
        exact ⟨range, List.mem_cons_of_mem _ listed, covers⟩

/-- No digit starts an identifier. -/
theorem digitRuns_apart :
    ∀ run ∈ digitRuns, identifierStartRanges.excludes run.1 run.2 = true := by
  decide +kernel

/-- An identifier starts as no number does. -/
theorem startsWord_of_isIdentifierStart {first : Char} (start : isIdentifierStart first = true) :
    StartsWord first := by
  rw [isIdentifierStart] at start
  split at start
  · rw [Bool.or_eq_true, beq_iff_eq] at start
    rcases start with letter | rfl
    · exact startsWord_of_isAlpha letter
    · exact ⟨by decide +kernel, by decide, by decide, by decide⟩
  · rename_i foreign
    refine ⟨?_, ?_, ?_, ?_⟩
    · rw [Bool.eq_false_iff]
      intro digit
      rw [isDigit, digitValue?] at digit
      simp only [show ¬(0x30 ≤ first.toNat ∧ first.toNat ≤ 0x39) by omega, if_false,
        Option.isSome_map, CodeRanges.isSome_start?] at digit
      obtain ⟨run, listed, above, below⟩ := CodeRanges.range_of_contains digit
      rw [CodeRanges.not_contains_of_excludes (digitRuns_apart run listed) above below] at start
      cases start
    all_goals
      rintro rfl
      exact foreign (by decide)

end Text

namespace Numeral

/-- A character that is no underscore is kept. -/
theorem withoutUnderscores?_cons (afterDigit : Bool) {character : Char} (rest : List Char)
    (other : character ≠ '_') : withoutUnderscores? afterDigit (character :: rest) =
      (withoutUnderscores? character.isDigit rest).map (character :: ·) := by
  rw [withoutUnderscores?]
  intro same
  exact absurd same other

/-- An underscore that is not behind a digit is refused. -/
theorem withoutUnderscores?_underscore (rest : List Char) :
    withoutUnderscores? false ('_' :: rest) = none := by
  cases rest with
  | nil => rfl
  | cons next others => rfl

/-- A text without digits has no underscore that can be removed: it is left as it is, or refused. -/
theorem withoutUnderscores?_of_none {text : List Char}
    (none : ∀ character ∈ text, character.isDigit = false) :
    withoutUnderscores? false text = if '_' ∈ text then Option.none else some text := by
  induction text with
  | nil => rfl
  | cons character rest inductionHypothesis =>
    rw [List.forall_mem_cons] at none
    by_cases underscore : character = '_'
    · subst underscore
      rw [withoutUnderscores?_underscore, if_pos List.mem_cons_self]
    · rw [withoutUnderscores?_cons false rest underscore, none.1, inductionHypothesis none.2]
      by_cases later : '_' ∈ rest
      · rw [if_pos later, if_pos (List.mem_cons_of_mem _ later)]
        rfl
      · rw [if_neg later, if_neg]
        · rfl
        · rw [List.mem_cons, not_or]
          exact ⟨Ne.symm underscore, later⟩

/-- Removing underscores keeps everything else. -/
theorem withoutUnderscores?_keeps {afterDigit : Bool} {text kept : List Char}
    (removed : withoutUnderscores? afterDigit text = some kept) : kept = text.filter (· ≠ '_') := by
  induction text generalizing afterDigit kept with
  | nil => exact (Option.some.inj removed).symm
  | cons character rest inductionHypothesis =>
    by_cases underscore : character = '_'
    · subst underscore
      cases rest with
      | nil => cases removed
      | cons next others =>
        rw [withoutUnderscores?] at removed
        split at removed
        · simpa using inductionHypothesis removed
        · cases removed
    · rw [withoutUnderscores?_cons afterDigit rest underscore] at removed
      obtain ⟨later, read, rfl⟩ := Option.map_eq_some_iff.mp removed
      rw [inductionHypothesis read, List.filter_cons_of_pos (by simpa using underscore)]

/-- Where no digit starts a text, no digits are taken from it. -/
theorem leadingDigits_of_startsWord {first : Char} (start : Text.StartsWord first)
    (rest : List Char) : leadingDigits (first :: rest) = ([], first :: rest) := by
  have noDigit : ¬first.isDigit = true := by
    intro digit
    have everywhere := Text.isDigit_of_isDigit first digit
    rw [start.noDigit] at everywhere
    cases everywhere
  rw [leadingDigits, List.takeWhile_cons_of_neg noDigit, List.dropWhile_cons_of_neg noDigit]
  rfl

/-- Where no sign starts a text, no sign is taken from it. -/
theorem splitSign_of_startsWord {first : Char} (start : Text.StartsWord first)
    (rest : List Char) : splitSign (first :: rest) = (false, first :: rest) := by
  rw [splitSign]
  · intro _ same
    exact start.noMinus (List.cons.inj same).1
  · intro _ same
    exact start.noPlus (List.cons.inj same).1

/-- A text that starts as no number does is no integer. -/
theorem integerDigits?_of_startsWord {first : Char} (start : Text.StartsWord first)
    (rest : List Char) : integerDigits? (first :: rest) = none := by
  simp only [integerDigits?, splitSign_of_startsWord start, leadingDigits_of_startsWord start]

/-- The words for infinity and for what is no number. -/
def words : List String := ["inf", "infinity", "nan"]

/-- A text that starts as no number does is a decimal exactly if it is one of the words for infinity
and for what is no number, in any case. -/
theorem binary64Of?_of_startsWord {first : Char} (start : Text.StartsWord first)
    (rest : List Char) : (binary64Of? (first :: rest)).isSome = true ↔
      String.ofList ((first :: rest).map Char.toLower) ∈ words := by
  have noDecimal : unsignedDecimal? (first :: rest) = none := by
    simp only [unsignedDecimal?, leadingDigits_of_startsWord start]
    split
    · rename_i same
      exact absurd (List.cons.inj same).1 start.noPoint
    · rfl
  simp only [binary64Of?, splitSign_of_startsWord start, noDecimal, words, List.mem_cons,
    List.not_mem_nil, or_false, Bool.or_eq_true, decide_eq_true_eq]
  generalize String.ofList ((first :: rest).map Char.toLower) = word
  split
  · rename_i infinite
    exact iff_of_true rfl (infinite.imp_right .inl)
  · rename_i finite
    split
    · rename_i noNumber
      exact iff_of_true rfl (.inr (.inr noNumber))
    · rename_i other
      refine iff_of_false Bool.false_ne_true ?_
      rintro (infinite | infinite | noNumber)
      · exact finite (.inl infinite)
      · exact finite (.inr infinite)
      · exact other noNumber

/-- A text that is one of the words for infinity and for what is no number, in any case, is made of
letters. -/
theorem letters_of_word {text : List Char}
    (word : String.ofList (text.map Char.toLower) ∈ words) :
    ∀ character ∈ text, character.isAlpha = true := by
  have small : (words.all fun word => word.toList.all Char.isLower) = true := by decide +kernel
  intro character listed
  have lower : character.toLower.isLower = true := by
    refine List.all_eq_true.mp (List.all_eq_true.mp small _ word) character.toLower ?_
    rw [String.toList_ofList]
    exact List.mem_map.mpr ⟨character, listed, rfl⟩
  rw [Text.isAlpha_iff]
  cases capital : character.isUpper with
  | true => exact .inl rfl
  | false => exact .inr (Text.toLower_of_not_isUpper capital ▸ lower)

variable {written : String} {first : Char} {rest : List Char}

/-- A name as it stands in a setting: without blanks around it, and with a start that is none of a
number. -/
structure IsName (written : String) (first : Char) (rest : List Char) : Prop where
  text : written.toList = first :: rest
  start : Text.StartsWord first
  trimmed : Text.trimWhile Text.isSpacing written.toList = written.toList

/-- What is read of a name for a number starts as the name does. -/
theorem IsName.cleaned (name : IsName written first rest) {kept : List Char}
    (cleaned : cleaned? written = some kept) : ∃ later, kept = first :: later := by
  rw [cleaned?, name.trimmed, name.text, List.map_cons,
    Text.asciiDigit_of_not_isDigit name.start.noDigit] at cleaned
  by_cases underscore : first = '_'
  · rw [underscore, withoutUnderscores?_underscore] at cleaned
    cases cleaned
  · rw [withoutUnderscores?_cons false _ underscore] at cleaned
    obtain ⟨later, _, same⟩ := Option.map_eq_some_iff.mp cleaned
    exact ⟨later, same.symm⟩

/-- No name is an integer. -/
theorem IsName.integer?_eq_none (name : IsName written first rest) : integer? written = none := by
  rw [integer?]
  cases cleaned : cleaned? written with
  | none => rfl
  | some kept =>
    obtain ⟨later, rfl⟩ := name.cleaned cleaned
    simp only [Option.bind_eq_bind, Option.bind_some, integerDigits?_of_startsWord name.start,
      Option.bind_none]

/-- A name is a decimal exactly if it is one of the words for infinity and for what is no number, in
any case. -/
theorem IsName.binary64?_isSome (name : IsName written first rest) :
    (binary64? written).isSome = true ↔
      String.ofList (written.toList.map Char.toLower) ∈ words := by
  have noDigits : ∀ {text : List Char}, (∀ character ∈ text, character.isAlpha = true) →
      ∀ character ∈ text, character.isDigit = false := by
    intro text letters character listed
    rw [Bool.eq_false_iff]
    intro digit
    have foreign := Text.not_isDigit_of_isAlpha (letters character listed)
    rw [Text.isDigit_of_isDigit character digit] at foreign
    cases foreign
  constructor
  · intro read
    rw [binary64?] at read
    cases cleaned : cleaned? written with
    | none =>
      rw [cleaned] at read
      cases read
    | some kept =>
      rw [cleaned] at read
      obtain ⟨later, rfl⟩ := name.cleaned cleaned
      have word := (binary64Of?_of_startsWord name.start later).mp read
      -- The word has no digits. So no underscore stood among them, and no digit was replaced.
      rw [cleaned?, name.trimmed] at cleaned
      have plain : ∀ character ∈ written.toList.map Text.asciiDigit,
          character.isDigit = false := by
        intro character listed
        rw [Bool.eq_false_iff]
        intro digit
        have among : character ∈ first :: later := by
          rw [withoutUnderscores?_keeps cleaned, List.mem_filter]
          refine ⟨listed, decide_eq_true fun underscore => ?_⟩
          rw [underscore] at digit
          cases digit
        rw [noDigits (letters_of_word word) character among] at digit
        cases digit
      rw [withoutUnderscores?_of_none plain] at cleaned
      split at cleaned
      · cases cleaned
      · have same := Option.some.inj cleaned
        rw [Text.map_asciiDigit_of_none plain] at same
        rwa [← same] at word
  · intro word
    have letters := letters_of_word word
    have same : written.toList.map Text.asciiDigit = written.toList := by
      refine (List.map_congr_left fun character listed => ?_).trans (List.map_id _)
      exact Text.asciiDigit_of_not_isDigit
        (Text.not_isDigit_of_isAlpha (letters character listed))
    have absent : '_' ∉ written.toList := by
      intro listed
      have letter := letters '_' listed
      cases letter
    have cleaned : cleaned? written = some (first :: rest) := by
      rw [cleaned?, name.trimmed, same, withoutUnderscores?_of_none (noDigits letters),
        if_neg absent, name.text]
    rw [name.text] at word
    rw [binary64?, cleaned]
    exact (binary64Of?_of_startsWord name.start rest).mpr word

end Numeral

/-- The small letter of a character is that of its code. -/
theorem StringToken.toNat_toLower_eq (character : Char) :
    character.toLower.toNat = lowerUnit character.toNat := by
  by_cases ascii : character.toNat < 0x80
  · have code := toNat_toLower character.toNat (List.mem_range.mpr ascii)
    rwa [Char.ofNat_toNat] at code
  · have noCapital : character.isUpper = false := by
      rw [Bool.eq_false_iff]
      intro capital
      have code := Text.toNat_of_isAlpha ((Text.isAlpha_iff character).mpr (.inl capital))
      omega
    rw [Text.toLower_of_not_isUpper noCapital, lowerUnit_beyond_ascii (Nat.le_of_not_lt ascii)]

/-- A text is a word of plain letters in lower case exactly if it has their small letters. -/
theorem StringToken.lower_eq_iff_map_toLower (text : String) {word : String}
    (letters : ∀ letter ∈ word.toList, PlainLetter letter) :
    Text.lower text = word ↔ String.ofList (text.toList.map Char.toLower) = word := by
  have codes : text.toList.map (fun character => lowerUnit character.toNat) =
      (text.toList.map Char.toLower).map Char.toNat := by
    rw [List.map_map]
    exact List.map_congr_left fun character _ => (toNat_toLower_eq character).symm
  rw [lower_eq_iff text letters, codes, ← String.toList_inj, String.toList_ofList]
  exact List.map_inj_right fun left right same => Char.toNat_inj.mp same

/-- The letters of the word "false" are plain. -/
theorem StringToken.letters_of_false : ∀ letter ∈ "false".toList, PlainLetter letter := by
  have all : ("false".toList.all fun letter => PlainLetter letter) = true := by decide +kernel
  simpa only [List.all_eq_true, decide_eq_true_eq] using all

namespace KeyValue

/-- The words that are values of other types than texts, in small letters. -/
def reservedWords : List String := ["true", "false"] ++ Numeral.words

/-- The name is one of the reserved words in any case. -/
def isReserved (name : String) : Bool :=
  reservedWords.contains (String.ofList (name.toList.map Char.toLower))

/-- A name is read as a text, unless it is one of the reserved words. -/
theorem readText_readValue {written : String} {first : Char} {rest : List Char}
    (name : Numeral.IsName written first rest) : Setting.readText (readValue written) =
      if isReserved written then .problem .notAString else .valid written := by
  have truth := StringToken.lower_eq_iff_map_toLower written StringToken.letters_of_true
  have falsehood := StringToken.lower_eq_iff_map_toLower written StringToken.letters_of_false
  have number := name.binary64?_isSome
  simp only [readValue, isReserved, reservedWords, List.contains_iff_mem, List.mem_append,
    List.mem_cons, List.not_mem_nil, or_false, truth, falsehood, name.integer?_eq_none]
  generalize String.ofList (written.toList.map Char.toLower) = word at number ⊢
  by_cases isTrue : word = "true"
  · rw [if_pos isTrue, if_pos (.inl (.inl isTrue))]
    rfl
  by_cases isFalse : word = "false"
  · rw [if_neg isTrue, if_pos isFalse, if_pos (.inl (.inr isFalse))]
    rfl
  rw [if_neg isTrue, if_neg isFalse]
  cases read : Numeral.binary64? written with
  | some value =>
    rw [read] at number
    rw [if_pos (.inr (number.mp rfl))]
    rfl
  | none =>
    rw [read] at number
    rw [if_neg]
    · rfl
    · rintro ((same | same) | listed)
      · exact isTrue same
      · exact isFalse same
      · exact absurd (number.mpr listed) Bool.false_ne_true

end KeyValue

namespace Text

/-- What trimming a number removes, trimming a name does too. -/
theorem isBlank_of_isSpacing (character : Char) (spacing : isSpacing character = true) :
    isBlank character = true := by
  rw [isSpacing, Bool.and_eq_true] at spacing
  exact spacing.1

/-- The start of a segment is no start of a number. -/
theorem startsWord_of_isSegmentStart {first : Char}
    (start : Configuration.isSegmentStart first = true) : StartsWord first := by
  rw [Configuration.isSegmentStart, Bool.or_eq_true, Bool.or_eq_true, decide_eq_true_eq,
    decide_eq_true_eq] at start
  rcases start with (letter | rfl) | rfl
  · exact startsWord_of_isAlpha letter
  · exact startsWord_of_isIdentifierStart (by decide)
  · exact ⟨by decide +kernel, by decide, by decide, by decide⟩

end Text

namespace Checked

variable {α β : Type}

theorem map_valid (function : α → β) (value : α) :
    function <$> valid value = valid (function value) := rfl

theorem map_invalid (function : α → β) (issues : List Issue) :
    function <$> (invalid issues : Checked α) = invalid issues :=
  rfl

theorem map_map {γ : Type} (first : α → β) (second : β → γ) (reading : Checked α) :
    second <$> first <$> reading = (second ∘ first) <$> reading := by
  cases reading <;> rfl

/-- A function that is given to a value is applied to it. -/
theorem valid_seq (function : α → β) (argument : Checked α) :
    valid function <*> argument = function <$> argument := by
  cases argument <;> rfl

/-- A value that is accepted adds no problems to those there are. -/
theorem seq_valid (reading : Checked (α → β)) (value : α) :
    reading <*> valid value = (fun function => function value) <$> reading := by
  cases reading with
  | valid function => rfl
  | invalid issues => exact congrArg invalid (List.append_nil issues)

end Checked

/-- A single setting is read for its own name, and leaves the default for any other. -/
theorem Configuration.setting_single {α : Type} (key name : String) (value : Setting) (default : α)
    (read : Setting → Checked α) : setting [(key, value)] name default read =
      if key = name then (read value).under (.name name) else .valid default := by
  by_cases same : key = name <;> simp [setting, Setting.find?, same]

/-- What is accepted is the trimmed name, if it has the form asked for. -/
theorem Configuration.acceptName_valid_iff (accepts : String → Bool)
    (complaint given name : String) : acceptName accepts complaint given = .valid name ↔
      accepts (Text.trim given) = true ∧ name = Text.trim given := by
  rw [acceptName]
  split
  · rename_i accepted
    simp only [Checked.valid.injEq, accepted, true_and, eq_comm]
  · rename_i refused
    refine iff_of_false ?_ fun right => refused right.1
    intro same
    cases same

/-- The names in a configuration. -/
inductive NameField where
  | attributeHolder
  | attributeName
  | valueHolder
  deriving DecidableEq, Repr

namespace NameField

/-- The name of the setting. -/
def key : NameField → String
  | attributeHolder => "attribute_holder"
  | attributeName => "attribute_name"
  | valueHolder => "value_holder"

/-- Whether a trimmed text is a name of the form asked for. -/
def accepts : NameField → String → Bool
  | attributeName => Text.isIdentifier
  | _ => Configuration.isQualified

/-- How a name is accepted. -/
def accept : NameField → String → Checked String
  | attributeName => Configuration.acceptAttribute
  | _ => Configuration.acceptQualified

/-- The configuration with a given text for the name and the defaults besides. -/
def configured : NameField → String → Configuration
  | attributeHolder, name => { attributeHolder := name }
  | attributeName, name => { attributeName := name }
  | valueHolder, name => { valueHolder := name }

/-- A single setting for a name makes a configuration of what is accepted. -/
theorem ofSettings_single (field : NameField) (value : Setting) :
    Configuration.ofSettings [(field.key, value)] =
      field.configured <$>
        (Configuration.reading Setting.readText field.accept value).under (.name field.key) := by
  cases field <;>
    simp only [Configuration.ofSettings, Configuration.setting_single, key, accept, if_true,
      reduceIte, String.reduceEq, Checked.map_valid, Checked.valid_seq, Checked.seq_valid,
      Checked.map_map] <;>
    rfl

/-- A field accepts a text exactly if the trimmed text is a name of its form, and gives the trimmed
text. -/
theorem accept_valid_iff (field : NameField) (given name : String) :
    field.accept given = .valid name ↔
      field.accepts (Text.trim given) = true ∧ name = Text.trim given := by
  cases field with
  | attributeHolder =>
    simp only [accept, Configuration.acceptQualified]
    exact Configuration.acceptName_valid_iff ..
  | attributeName =>
    simp only [accept, Configuration.acceptAttribute]
    exact Configuration.acceptName_valid_iff ..
  | valueHolder =>
    simp only [accept, Configuration.acceptQualified]
    exact Configuration.acceptName_valid_iff ..

/-- A qualified name starts with the start of a segment, and has a dot. -/
theorem start_of_isQualified {name : String} (qualified : Configuration.isQualified name = true) :
    (∃ first rest, name.toList = first :: rest ∧ Configuration.isSegmentStart first = true) ∧
      '.' ∈ name.toList := by
  rw [Configuration.isQualified, Bool.and_eq_true, decide_eq_true_eq, parts_singleton] at qualified
  obtain ⟨several, segments⟩ := qualified
  have whole : ['.'].intercalate (name.toList.splitOn '.') = name.toList :=
    List.intercalate_splitOn '.'
  generalize name.toList.splitOn '.' = parts at several segments whole
  match parts, several with
  | segment :: next :: others, _ =>
    rw [List.all_cons, Bool.and_eq_true] at segments
    cases segment with
    | nil => exact absurd segments.1 Bool.false_ne_true
    | cons first rest =>
      have start := segments.1
      rw [Configuration.isSegment, Bool.and_eq_true] at start
      rw [List.intercalate_cons_cons] at whole
      rw [← whole]
      refine ⟨⟨first, _, rfl, start.1⟩, ?_⟩
      simp

/-- An accepted name is one as it stands in a setting. -/
theorem isName_of_accepts {field : NameField} {given : String}
    (accepted : field.accepts (Text.trim given) = true) :
    ∃ first rest, Numeral.IsName (Text.trim given) first rest := by
  have trimmed : Text.trimWhile Text.isSpacing (Text.trim given).toList =
      (Text.trim given).toList := by
    rw [Text.trim, String.toList_ofList, Text.trimWhile_trimWhile Text.isBlank_of_isSpacing]
  have qualified : Configuration.isQualified (Text.trim given) = true →
      ∃ first rest, Numeral.IsName (Text.trim given) first rest := by
    intro qualified
    obtain ⟨⟨first, rest, text, start⟩, _⟩ := start_of_isQualified qualified
    exact ⟨first, rest, text, Text.startsWord_of_isSegmentStart start, trimmed⟩
  cases field with
  | attributeHolder => exact qualified accepted
  | valueHolder => exact qualified accepted
  | attributeName =>
    have identifier : Text.isIdentifier (Text.trim given) = true := accepted
    rw [Text.isIdentifier] at identifier
    split at identifier
    · cases identifier
    · rename_i first rest text
      rw [Bool.and_eq_true] at identifier
      exact ⟨first, rest, text, Text.startsWord_of_isIdentifierStart identifier.1, trimmed⟩

/-- No qualified name is reserved, as it has a dot. -/
theorem not_isReserved_of_isQualified {name : String}
    (qualified : Configuration.isQualified name = true) : KeyValue.isReserved name = false := by
  have undotted : (KeyValue.reservedWords.all fun word => !word.toList.contains '.') = true := by
    decide +kernel
  rw [KeyValue.isReserved, Bool.eq_false_iff]
  intro reserved
  have absent := List.all_eq_true.mp undotted _ (List.contains_iff_mem.mp reserved)
  rw [String.toList_ofList, Bool.not_eq_true'] at absent
  have dotted : '.' ∈ name.toList.map Char.toLower :=
    List.mem_map.mpr ⟨'.', (start_of_isQualified qualified).2, rfl⟩
  rw [List.contains_iff_mem.mpr dotted] at absent
  cases absent

/-- A reserved name is accepted for nothing but the attribute. -/
theorem eq_attributeName_of_isReserved {field : NameField} {name : String}
    (accepted : field.accepts name = true) (reserved : KeyValue.isReserved name = true) :
    field = attributeName := by
  by_contra other
  have qualified : Configuration.isQualified name = true := by
    cases field with
    | attributeName => exact absurd rfl other
    | attributeHolder => simpa only [accepts] using accepted
    | valueHolder => simpa only [accepts] using accepted
  rw [not_isReserved_of_isQualified qualified] at reserved
  cases reserved

end NameField

/-- A text is cut at a mark behind a part that does not have it. -/
theorem Text.cutFirst?_append {mark : Char} {before : List Char} (absent : mark ∉ before)
    (after : List Char) : cutFirst? mark (before ++ mark :: after) = some (before, after) := by
  induction before with
  | nil => exact if_pos rfl
  | cons first rest inductionHypothesis =>
    rw [List.mem_cons, not_or] at absent
    rw [List.cons_append, cutFirst?, if_neg (Ne.symm absent.1), inductionHypothesis absent.2]
    rfl

/-- A word for a name is a setting of the name, with the value that is read of the trimmed text. -/
theorem KeyValue.settings_name (field : NameField) (name : String) :
    settings [field.key ++ "=" ++ name] = [(field.key, readValue (Text.trim name))] := by
  have keys : '=' ∉ field.key.toList ∧ Text.trim field.key = field.key ∧ field.key ≠ "" := by
    cases field <;> decide +kernel
  obtain ⟨absent, trimmed, some⟩ := keys
  have cut : Text.cutFirst? '=' (field.key ++ "=" ++ name).toList =
      Option.some (field.key.toList, name.toList) := by
    rw [String.toList_append, String.toList_append, List.append_assoc]
    exact Text.cutFirst?_append absent name.toList
  have read : read? (field.key ++ "=" ++ name) =
      Option.some (field.key, readValue (Text.trim name)) := by
    simp only [read?, cut, String.ofList_toList, trimmed]
    exact if_neg (by simpa using some)
  rw [settings, List.filterMap_cons, read, List.filterMap_nil]

/-- No file gives settings: there is none, or the nearest one cannot be read, or it has no section
for them. -/
inductive Configuration.NoSection (tree : Files.FileTree) (start : Files.Path) : Prop where
  | absent (none : nearestFile? tree start = none) : NoSection tree start
  | unreadable (location : Files.Location) (text : String)
      (nearest : nearestFile? tree start = some (location, text))
      (malformed : Toml.read text = .error .malformed) : NoSection tree start
  | without (location : Files.Location) (text : String) (document : Toml.Fields)
      (nearest : nearestFile? tree start = some (location, text))
      (read : Toml.read text = .ok document)
      (empty : Setting.ofDocument document = .ok []) : NoSection tree start

/-- Where no file gives settings, a configuration is loaded from the others. -/
theorem Configuration.NoSection.gives_load {σ : Type} {tree : Files.FileTree} {start : Files.Path}
    (bare : NoSection tree start) (settings arguments : Settings) (state : σ) :
    (load tree start settings arguments : Work Shown σ Abort (Checked Configuration)).Gives state
      state (ofSettings (settings ++ arguments)) := by
  have stored : (fileSettings tree start : Work Shown σ Abort Settings).Gives state state [] := by
    rw [fileSettings]
    cases bare with
    | absent none =>
      rw [none]
      exact (Work.gives_pure ..).mpr ⟨rfl, rfl⟩
    | unreadable location text nearest malformed =>
      simp only [nearest, malformed]
      refine (Work.gives_bind ..).mpr ⟨state, (), (Work.gives_tell ..).mpr rfl, ?_⟩
      exact (Work.gives_pure ..).mpr ⟨rfl, rfl⟩
    | without location text document nearest read empty =>
      simp only [nearest, read, empty]
      exact (Work.gives_pure ..).mpr ⟨rfl, rfl⟩
  rw [load, Work.gives_bind]
  refine ⟨state, [], stored, ?_⟩
  exact (Work.gives_pure ..).mpr ⟨rfl, rfl⟩

/-- A name that is accepted when it is passed as a text makes the same configuration when it is
written on the command line, where no file gives settings. The exception is an attribute name that
is, without the blanks around it and in any case, one of the reserved words: it is read as a truth
value or a number, and refused because it is no text. -/
theorem names_reach_configuration {σ : Type} (field : NameField) (name : String)
    (configuration : Configuration) (tree : Files.FileTree) (start : Files.Path) (state : σ)
    (accepted : Configuration.ofSettings [(field.key, .text name)] = .valid configuration)
    (bare : Configuration.NoSection tree start) :
    (Configuration.load tree start (KeyValue.settings [field.key ++ "=" ++ name]) [] :
        Work Shown σ Abort (Checked Configuration)).Gives state state
      (if field = .attributeName ∧ KeyValue.isReserved (Text.trim name) = true then
        .invalid [⟨[.name field.key], .notAString⟩]
      else .valid configuration) := by
  rw [KeyValue.settings_name]
  have loaded := bare.gives_load [(field.key, KeyValue.readValue (Text.trim name))] [] state
  rw [List.append_nil, field.ofSettings_single] at loaded
  rw [field.ofSettings_single] at accepted
  cases taken : field.accept name with
  | invalid issues =>
    simp only [Configuration.reading, Setting.readText, taken, Checked.under,
      Checked.map_invalid] at accepted
    cases accepted
  | valid trimmed =>
    simp only [Configuration.reading, Setting.readText, taken, Checked.under,
      Checked.map_valid, Checked.valid.injEq] at accepted
    obtain ⟨form, rfl⟩ := (field.accept_valid_iff name trimmed).mp taken
    obtain ⟨first, rest, isName⟩ := NameField.isName_of_accepts form
    have again : field.accept (Text.trim name) = .valid (Text.trim name) :=
      (field.accept_valid_iff ..).mpr ⟨by rwa [Text.trim_trim], (Text.trim_trim name).symm⟩
    rw [Configuration.reading, KeyValue.readText_readValue isName] at loaded
    by_cases reserved : KeyValue.isReserved (Text.trim name) = true
    · have named := NameField.eq_attributeName_of_isReserved form reserved
      rw [if_pos reserved, Checked.problem] at loaded
      rw [if_pos ⟨named, reserved⟩]
      exact loaded
    · have apart : ¬(field = .attributeName ∧ KeyValue.isReserved (Text.trim name) = true) :=
        fun both => reserved both.2
      rw [if_neg reserved] at loaded
      dsimp only at loaded
      rw [again, Checked.under, Checked.map_valid, accepted] at loaded
      rw [if_neg apart]
      exact loaded

/-- A place without files. -/
def nowhere : Files.FileTree := ⟨[], []⟩

theorem noSection_nowhere : Configuration.NoSection nowhere (.relative []) :=
  .absent (by decide +kernel)

/-- A qualified name may start with a reserved word and go on like an exponent; an attribute name
that is a reserved word in other letters, between blanks, is refused. -/
theorem qualified_name_kept :
    (Configuration.load nowhere (.relative []) (KeyValue.settings ["value_holder= nan.e5"]) [] :
        Work Shown Unit Abort (Checked Configuration)).Gives () ()
          (.valid { valueHolder := "nan.e5" }) ∧
      (Configuration.load nowhere (.relative []) (KeyValue.settings ["attribute_name=NaN "]) [] :
        Work Shown Unit Abort (Checked Configuration)).Gives () ()
          (.invalid [⟨[.name "attribute_name"], .notAString⟩]) := by
  constructor
  · exact names_reach_configuration .valueHolder " nan.e5" { valueHolder := "nan.e5" } nowhere _ ()
      rfl noSection_nowhere
  · exact names_reach_configuration .attributeName "NaN " { attributeName := "NaN" } nowhere _ ()
      rfl noSection_nowhere

/-- The attribute name "nan" does not reach the configuration from the command line. -/
theorem nan_not_reaching :
    ¬∀ (field : NameField) (name : String) (configuration : Configuration),
      Configuration.ofSettings [(field.key, .text name)] = .valid configuration →
        Configuration.NoSection nowhere (.relative []) →
        (Configuration.load nowhere (.relative [])
          (KeyValue.settings [field.key ++ "=" ++ name]) [] :
            Work Shown Unit Abort (Checked Configuration)).Gives () () (.valid configuration) := by
  intro always
  have loaded := always .attributeName "nan" { attributeName := "nan" } rfl noSection_nowhere
  have refused : (Configuration.load nowhere (.relative [])
      (KeyValue.settings ["attribute_name=nan"]) [] :
        Work Shown Unit Abort (Checked Configuration)).Gives () ()
          (.invalid [⟨[.name "attribute_name"], .notAString⟩]) := ⟨rfl, rfl⟩
  cases loaded.2.symm.trans refused.2

end TypedDefaults
