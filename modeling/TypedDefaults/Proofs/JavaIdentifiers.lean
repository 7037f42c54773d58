import Mathlib.Data.List.Sort
import Mathlib.Data.List.TakeWhile
import TypedDefaults.Text.Identifier
import TypedDefaults.Text.LowerCase

/-!
# Identifiers of Java

An identifier of Java is a word, that is a letter and then letters, digits and
marks, and none of the words that are reserved. Its letters and marks are nearly
those of `isIdentifier`; the tables here have the difference. Lower case makes a
word of a word and of nothing else: every run of capitals is mapped from letters
to letters, or from signs to signs that no word has.
-/

namespace TypedDefaults.Text

/-- Letters of Java that `identifierStartRanges` does not have: those of ASCII, the signs of
currencies, connecting punctuation, and letters that are equivalent to others. -/
def furtherLetterRanges : CodeRanges :=
  [(0x24, 0x24), (0x41, 0x5A), (0x5F, 0x5F), (0x61, 0x7A), (0xA2, 0xA5), (0x37A, 0x37A),
   (0x58F, 0x58F), (0x60B, 0x60B), (0x7FE, 0x7FF), (0x9F2, 0x9F3), (0x9FB, 0x9FB), (0xAF1, 0xAF1),
   (0xBF9, 0xBF9), (0xE33, 0xE33), (0xE3F, 0xE3F), (0xEB3, 0xEB3), (0x17DB, 0x17DB),
   (0x203F, 0x2040), (0x2054, 0x2054), (0x20A0, 0x20C0), (0x2E2F, 0x2E2F), (0xA838, 0xA838),
   (0xFC5E, 0xFC63), (0xFDFA, 0xFDFC), (0xFE33, 0xFE34), (0xFE4D, 0xFE4F), (0xFE69, 0xFE69),
   (0xFE70, 0xFE70), (0xFE72, 0xFE72), (0xFE74, 0xFE74), (0xFE76, 0xFE76), (0xFE78, 0xFE78),
   (0xFE7A, 0xFE7A), (0xFE7C, 0xFE7C), (0xFE7E, 0xFE7E), (0xFF04, 0xFF04), (0xFF3F, 0xFF3F),
   (0xFF9E, 0xFF9F), (0xFFE0, 0xFFE1), (0xFFE5, 0xFFE6), (0x11FDD, 0x11FE0), (0x1E2FF, 0x1E2FF),
   (0x1ECB0, 0x1ECB0)]

/-- Characters that `identifierStartRanges` has though they are no letters of Java. -/
def noLetterRanges : CodeRanges := [(0x1885, 0x1886), (0x2118, 0x2118), (0x212E, 0x212E)]

/-- Characters of a word that are no letters and that `identifierContinueRanges` does not have: the
digits of ASCII, and the controls and signs for the layout that a word may have. -/
def furtherPartRanges : CodeRanges :=
  [(0x0, 0x8), (0xE, 0x1B), (0x30, 0x39), (0x7F, 0x9F), (0xAD, 0xAD), (0x600, 0x605),
   (0x61C, 0x61C), (0x6DD, 0x6DD), (0x70F, 0x70F), (0x890, 0x891), (0x8E2, 0x8E2),
   (0x180E, 0x180E), (0x200B, 0x200F), (0x202A, 0x202E), (0x2060, 0x2064), (0x2066, 0x206F),
   (0xFEFF, 0xFEFF), (0xFFF9, 0xFFFB), (0x110BD, 0x110BD), (0x110CD, 0x110CD), (0x13430, 0x13438),
   (0x1BCA0, 0x1BCA3), (0x1D173, 0x1D17A), (0xE0001, 0xE0001), (0xE0020, 0xE007F)]

/-- Characters that `identifierContinueRanges` has though no word of Java may have them. -/
def noPartRanges : CodeRanges :=
  [(0xB7, 0xB7), (0x387, 0x387), (0x1369, 0x1371), (0x19DA, 0x19DA), (0x2118, 0x2118),
   (0x212E, 0x212E)]

/-- The code point is a letter of Java. -/
def isLetterCode (code : Nat) : Bool :=
  furtherLetterRanges.contains code ||
    (identifierStartRanges.contains code && !noLetterRanges.contains code)

/-- A word of Java may have the code point behind its first letter. -/
def isPartCode (code : Nat) : Bool :=
  isLetterCode code || furtherPartRanges.contains code ||
    (identifierContinueRanges.contains code && !noPartRanges.contains code)

/-- The characters are a word of Java: a letter, then letters, digits and marks. -/
def isJavaWord : List Char → Bool
  | [] => false
  | first :: rest => isLetterCode first.toNat && rest.all fun part => isPartCode part.toNat

/-- The words that are no identifiers. -/
def reservedWords : List String :=
  ["abstract", "assert", "boolean", "break", "byte", "case", "catch", "char", "class", "const",
   "continue", "default", "do", "double", "else", "enum", "extends", "final", "finally", "float",
   "for", "goto", "if", "implements", "import", "instanceof", "int", "interface", "long", "native",
   "new", "package", "private", "protected", "public", "return", "short", "static", "strictfp",
   "super", "switch", "synchronized", "this", "throw", "throws", "transient", "try", "void",
   "volatile", "while", "_", "true", "false", "null"]

/-- The text is an identifier of Java. -/
def isJavaIdentifier (text : String) : Bool :=
  isJavaWord text.toList && !reservedWords.contains text

namespace CodeRanges

/-- A range that is none of the empty ones ends before another. -/
def Before (range next : Nat × Nat) : Prop := range.1 ≤ range.2 ∧ range.2 < next.1

instance (range next : Nat × Nat) : Decidable (Before range next) :=
  inferInstanceAs (Decidable (_ ∧ _))

instance : Trans Before Before Before where
  trans first second := ⟨first.1, by have := first.2; have := second.1; have := second.2; omega⟩

/-- What is left of the spans when those inside the ranges are taken away, range by range. -/
def uncovered : CodeRanges → List (Nat × Nat) → List (Nat × Nat)
  | [], spans => spans
  | (lowest, highest) :: later, spans =>
    uncovered later (spans.dropWhile fun span => lowest ≤ span.1 ∧ span.2 ≤ highest)

/-- The set has no code point from `first` to `last`. -/
def excludes : CodeRanges → Nat → Nat → Bool
  | [], _, _ => true
  | (lowest, highest) :: later, first, last =>
    if last < lowest then true
    else if highest < first then excludes later first last
    else false

/-- The code points of a range are in the set. -/
theorem contains_of_mem {ranges : CodeRanges} (sorted : ranges.Pairwise Before) {range : Nat × Nat}
    (among : range ∈ ranges) {code : Nat} (above : range.1 ≤ code) (below : code ≤ range.2) :
    ranges.contains code = true := by
  induction ranges with
  | nil => cases among
  | cons first later inductionHypothesis =>
    obtain ⟨lowest, highest⟩ := first
    rw [contains]
    rcases List.mem_cons.mp among with rfl | later
    · rw [if_neg (by omega), if_pos below]
    · have before : lowest ≤ highest ∧ highest < range.1 :=
        (List.pairwise_cons.mp sorted).1 range later
      rw [if_neg (by omega), if_neg (by omega)]
      exact inductionHypothesis sorted.of_cons later

/-- Where no span is left, each is inside a range. -/
theorem covered_of_uncovered {ranges : CodeRanges} {spans : List (Nat × Nat)}
    (none : ranges.uncovered spans = []) {span : Nat × Nat} (among : span ∈ spans) :
    ∃ range ∈ ranges, range.1 ≤ span.1 ∧ span.2 ≤ range.2 := by
  induction ranges generalizing spans with
  | nil =>
    rw [uncovered] at none
    rw [none] at among
    cases among
  | cons range later inductionHypothesis =>
    obtain ⟨lowest, highest⟩ := range
    rw [uncovered] at none
    have split := List.takeWhile_append_dropWhile
      (p := fun span : Nat × Nat => decide (lowest ≤ span.1 ∧ span.2 ≤ highest)) (l := spans)
    rw [← split, List.mem_append] at among
    rcases among with taken | left
    · exact ⟨_, List.mem_cons_self, by simpa using List.mem_takeWhile_imp taken⟩
    · obtain ⟨range, listed, inside⟩ := inductionHypothesis none left
      exact ⟨range, List.mem_cons_of_mem _ listed, inside⟩

/-- A range that is excluded is outside the set. -/
theorem not_contains_of_excludes {ranges : CodeRanges} {first last code : Nat}
    (excluded : ranges.excludes first last = true) (above : first ≤ code) (below : code ≤ last) :
    ranges.contains code = false := by
  induction ranges with
  | nil => rfl
  | cons range later inductionHypothesis =>
    obtain ⟨lowest, highest⟩ := range
    rw [excludes] at excluded
    rw [contains]
    split at excluded
    · rw [if_pos (by omega)]
    · split at excluded
      · rw [inductionHypothesis excluded, if_neg (show ¬code ≤ highest by omega), ite_self]
      · cases excluded

end CodeRanges

/-- Letters are parts of words. -/
theorem isPartCode_of_isLetterCode {code : Nat} (letter : isLetterCode code = true) :
    isPartCode code = true := by
  rw [isPartCode, letter, Bool.true_or, Bool.true_or]

/-- The code points of a run, or those that it is mapped to, counted from `start`. -/
def spansFrom (start : Nat) (run : Nat × Nat × Nat × Nat) : List (Nat × Nat) :=
  let (first, last, step, _) := run
  if step = 1 then [(start, start + (last - first))]
  else (List.range ((last - first) / step + 1)).map fun index =>
    (start + step * index, start + step * index)

/-- The code points of a run are in its spans. -/
theorem mem_spansFrom (start : Nat) (run : Nat × Nat × Nat × Nat) {code : Nat}
    (above : run.1 ≤ code) (below : code ≤ run.2.1) (aligned : (code - run.1) % run.2.2.1 = 0) :
    ∃ span ∈ spansFrom start run,
      span.1 ≤ start + (code - run.1) ∧ start + (code - run.1) ≤ span.2 := by
  obtain ⟨first, last, step, lower⟩ := run
  dsimp only at above below aligned ⊢
  rw [spansFrom]
  split
  · exact ⟨_, List.mem_singleton_self _, Nat.le_add_right _ _, by dsimp only; omega⟩
  · have distance : step * ((code - first) / step) = code - first :=
      Nat.mul_div_cancel' (Nat.dvd_of_mod_eq_zero aligned)
    have counted : (code - first) / step < (last - first) / step + 1 :=
      Nat.lt_succ_of_le (Nat.div_le_div_right (by omega))
    refine ⟨_, List.mem_map.mpr ⟨_, List.mem_range.mpr counted, rfl⟩, ?_, ?_⟩
    · rw [distance]
    · rw [distance]

/-- The runs of capital letters: all but the circled ones, which are signs. -/
def letterRuns : List (Nat × Nat × Nat × Nat) := capitalRuns.filter fun run => run.1 ≠ 0x24B6

/-- The small letters of ASCII, and the letters outside ASCII. -/
def smallLetterRanges : CodeRanges := (0x61, 0x7A) :: identifierStartRanges

/-- The tables of letters are in order. -/
theorem smallLetterRanges_sorted : smallLetterRanges.Pairwise CodeRanges.Before :=
  List.IsChain.pairwise (by decide +kernel)

/-- All capitals of the runs are letters. -/
theorem capitals_covered :
    smallLetterRanges.uncovered (letterRuns.flatMap fun run => spansFrom run.1 run) = [] := by
  decide +kernel

/-- All lower cases of the runs are letters. In the order of the lower cases the ranges are passed
once. -/
theorem lowers_covered :
    smallLetterRanges.uncovered
      ((letterRuns.insertionSort fun run next => run.2.2.2 ≤ next.2.2.2).flatMap fun run =>
        spansFrom run.2.2.2 run) = [] := by
  decide +kernel

/-- No run and no lower case of one meets the signs among the starts of identifiers, and all lower
cases are characters. -/
theorem capitalRuns_apart : ∀ run ∈ capitalRuns,
    noLetterRanges.excludes run.1 run.2.1 = true ∧
      noLetterRanges.excludes run.2.2.2 (run.2.2.2 + (run.2.1 - run.1)) = true ∧
      (run.2.2.2 + (run.2.1 - run.1) < 0xD800 ∨
        (0xDFFF < run.2.2.2 ∧ run.2.2.2 + (run.2.1 - run.1) < 0x110000)) := by
  decide +kernel

/-- A code point in the tables of letters is a letter unless it is one of the signs. -/
theorem isLetterCode_of_mem {range : Nat × Nat} {code : Nat} (among : range ∈ smallLetterRanges)
    (above : range.1 ≤ code) (below : code ≤ range.2)
    (apart : noLetterRanges.contains code = false) : isLetterCode code = true := by
  rw [isLetterCode, apart]
  rcases List.mem_cons.mp among with rfl | start
  · have sorted : furtherLetterRanges.Pairwise CodeRanges.Before :=
      List.IsChain.pairwise (by decide +kernel)
    have listed : (0x61, 0x7A) ∈ furtherLetterRanges := by decide +kernel
    rw [CodeRanges.contains_of_mem sorted listed above below, Bool.true_or]
  · have sorted : identifierStartRanges.Pairwise CodeRanges.Before :=
      smallLetterRanges_sorted.of_cons
    rw [CodeRanges.contains_of_mem sorted start above below, Bool.not_false, Bool.and_true,
      Bool.or_true]

/-- Code points that words have in the same places. -/
structure Alike (code other : Nat) : Prop where
  letter : isLetterCode code = isLetterCode other
  part : isPartCode code = isPartCode other

/-- Letters are alike. -/
theorem Alike.of_letters {code other : Nat} (letter : isLetterCode code = true)
    (otherLetter : isLetterCode other = true) : Alike code other :=
  ⟨letter.trans otherLetter.symm,
    (isPartCode_of_isLetterCode letter).trans (isPartCode_of_isLetterCode otherLetter).symm⟩

/-- Code points that no word has are alike. -/
theorem Alike.of_foreign {code other : Nat} (foreign : isPartCode code = false)
    (otherForeign : isPartCode other = false) : Alike code other := by
  refine ⟨?_, foreign.trans otherForeign.symm⟩
  rw [isPartCode, Bool.or_eq_false_iff, Bool.or_eq_false_iff] at foreign otherForeign
  rw [foreign.1.1, otherForeign.1.1]

/-- The run of the circled letters. -/
theorem circled_run : ∀ run ∈ capitalRuns, run.1 = 0x24B6 →
    run.1 = 0x24B6 ∧ run.2.1 = 0x24CF ∧ run.2.2.1 = 1 ∧ run.2.2.2 = 0x24D0 := by
  decide +kernel

/-- The circled letters are signs, capital and small. -/
theorem circled_foreign {code : Nat} (above : 0x24B6 ≤ code) (below : code ≤ 0x24E9) :
    isPartCode code = false := by
  have letters : furtherLetterRanges.excludes 0x24B6 0x24E9 = true := by decide +kernel
  have starts : identifierStartRanges.excludes 0x24B6 0x24E9 = true := by decide +kernel
  have parts : furtherPartRanges.excludes 0x24B6 0x24E9 = true := by decide +kernel
  have continues : identifierContinueRanges.excludes 0x24B6 0x24E9 = true := by decide +kernel
  rw [isPartCode, isLetterCode, CodeRanges.not_contains_of_excludes letters above below,
    CodeRanges.not_contains_of_excludes starts above below,
    CodeRanges.not_contains_of_excludes parts above below,
    CodeRanges.not_contains_of_excludes continues above below]
  rfl

/-- The lower case of a code point is itself, or its place in the run that covers it. -/
theorem lowerCode_cases (runs : List (Nat × Nat × Nat × Nat)) (code : Nat) :
    lowerCode runs code = code ∨ ∃ first last step lower, (first, last, step, lower) ∈ runs ∧
      first ≤ code ∧ code ≤ last ∧ (code - first) % step = 0 ∧
        lowerCode runs code = lower + (code - first) := by
  induction runs with
  | nil => exact .inl rfl
  | cons run later inductionHypothesis =>
    obtain ⟨first, last, step, lower⟩ := run
    rw [lowerCode]
    split
    · exact .inl rfl
    · rename_i started
      split
      · rename_i covered
        exact .inr ⟨first, last, step, lower, List.mem_cons_self, by omega, covered.1, covered.2,
          rfl⟩
      · rcases inductionHypothesis with same | ⟨first, last, step, lower, among, facts⟩
        · exact .inl same
        · exact .inr ⟨first, last, step, lower, List.mem_cons_of_mem _ among, facts⟩

/-- A code point and its lower case are alike in words. -/
theorem alike_lowerCode (code : Nat) (valid : code.isValidChar) :
    (lowerCode capitalRuns code).isValidChar ∧ Alike code (lowerCode capitalRuns code) := by
  rcases lowerCode_cases capitalRuns code with
    same | ⟨first, last, step, lower, among, above, below, aligned, lowered⟩
  · rw [same]
    exact ⟨valid, rfl, rfl⟩
  · rw [lowered]
    obtain ⟨capitalApart, lowerApart, exist⟩ := capitalRuns_apart _ among
    dsimp only at capitalApart lowerApart exist
    refine ⟨by rw [Nat.isValidChar]; omega, ?_⟩
    by_cases circled : first = 0x24B6
    · obtain ⟨rfl, rfl, rfl, rfl⟩ := circled_run _ among circled
      exact .of_foreign (circled_foreign above (by omega))
        (circled_foreign (by omega) (by omega))
    · have run : (first, last, step, lower) ∈ letterRuns :=
        List.mem_filter.mpr ⟨among, by simpa using circled⟩
      have capital : isLetterCode code = true := by
        obtain ⟨span, inside, spanAbove, spanBelow⟩ :=
          mem_spansFrom first (first, last, step, lower) above below aligned
        obtain ⟨range, listed, rangeAbove, rangeBelow⟩ := CodeRanges.covered_of_uncovered
          capitals_covered (List.mem_flatMap.mpr ⟨_, run, inside⟩)
        exact isLetterCode_of_mem listed (by omega) (by omega)
          (CodeRanges.not_contains_of_excludes capitalApart above below)
      have small : isLetterCode (lower + (code - first)) = true := by
        obtain ⟨span, inside, spanAbove, spanBelow⟩ :=
          mem_spansFrom lower (first, last, step, lower) above below aligned
        have sorted := (List.mem_insertionSort fun run next => run.2.2.2 ≤ next.2.2.2).mpr run
        obtain ⟨range, listed, rangeAbove, rangeBelow⟩ := CodeRanges.covered_of_uncovered
          lowers_covered (List.mem_flatMap.mpr ⟨_, sorted, inside⟩)
        exact isLetterCode_of_mem listed (by omega) (by omega)
          (CodeRanges.not_contains_of_excludes lowerApart (by omega) (by omega))
      exact .of_letters capital small

/-- The characters are a part of a word where one character is: the first of them is a letter if it
is one, and all are parts of words if it is one. -/
structure Spells (here : List Char) (character : Char) : Prop where
  first : here.head?.map (fun first => isLetterCode first.toNat) =
    some (isLetterCode character.toNat)
  parts : (here.all fun part => isPartCode part.toNat) = isPartCode character.toNat

/-- The character with a code has the code. -/
theorem toNat_ofNat_of_valid {code : Nat} (valid : code.isValidChar) :
    (Char.ofNat code).toNat = code := by
  rw [Char.ofNat, dif_pos valid]
  rfl

/-- A character that is alike spells another. -/
theorem Alike.spells {character : Char} {code : Nat} (valid : code.isValidChar)
    (alike : Alike character.toNat code) : Spells [Char.ofNat code] character where
  first := by
    rw [List.head?_cons, Option.map_some, toNat_ofNat_of_valid valid, alike.letter]
  parts := by
    rw [List.all_cons, List.all_nil, Bool.and_true, toNat_ofNat_of_valid valid, alike.part]

/-- In ASCII, letters have letters as their lower case, and other characters are their own. -/
theorem alike_toLower : ∀ code ∈ List.range 0x80,
    isLetterCode (Char.ofNat code).toLower.toNat = isLetterCode code ∧
      isPartCode (Char.ofNat code).toLower.toNat = isPartCode code := by
  decide +kernel

/-- The lower case of a character spells it. -/
theorem spells_lowerCharacter (character : Char) :
    Spells (lowerCharacter character) character := by
  rw [lowerCharacter]
  split
  · rename_i ascii
    obtain ⟨letter, part⟩ := alike_toLower character.toNat (List.mem_range.mpr ascii)
    rw [Char.ofNat_toNat] at letter part
    exact ⟨by simpa using letter, by simpa using part⟩
  · split
    · rename_i dotted
      exact ⟨by rw [dotted]; decide +kernel, by rw [dotted]; decide +kernel⟩
    · obtain ⟨valid, alike⟩ := alike_lowerCode character.toNat character.valid
      exact alike.spells valid

/-- A text in lower case starts with what spells its first character. -/
theorem lowerFrom_cons (before : List Char) (character : Char) (rest : List Char) :
    ∃ here, lowerFrom before (character :: rest) = here ++ lowerFrom (character :: before) rest ∧
      Spells here character := by
  rw [lowerFrom]
  split
  · rename_i sigma
    split
    · exact ⟨_, rfl, by rw [sigma]; decide +kernel, by rw [sigma]; decide +kernel⟩
    · exact ⟨_, rfl, by rw [sigma]; decide +kernel, by rw [sigma]; decide +kernel⟩
  · exact ⟨_, rfl, spells_lowerCharacter character⟩

/-- A word that starts with what spells a character is one exactly if it is with the character. -/
theorem Spells.isJavaWord_append {here : List Char} {character : Char}
    (spells : Spells here character) (more : List Char) :
    isJavaWord (here ++ more) =
      (isLetterCode character.toNat && more.all fun part => isPartCode part.toNat) := by
  obtain ⟨first, parts⟩ := spells
  cases here with
  | nil => cases first
  | cons head rest =>
    rw [List.head?_cons, Option.map_some, Option.some_inj] at first
    rw [List.cons_append, isJavaWord, List.all_append, first]
    cases letter : isLetterCode character.toNat with
    | false => rfl
    | true =>
      rw [isPartCode_of_isLetterCode letter, List.all_cons, Bool.and_eq_true] at parts
      rw [parts.2, Bool.true_and]

/-- Lower case leaves the characters that no word has, and takes letters to letters. -/
theorem all_lowerFrom (before text : List Char) :
    ((lowerFrom before text).all fun part => isPartCode part.toNat) =
      text.all fun part => isPartCode part.toNat := by
  induction text generalizing before with
  | nil => rfl
  | cons character rest inductionHypothesis =>
    obtain ⟨here, lowered, spells⟩ := lowerFrom_cons before character rest
    rw [lowered, List.all_append, List.all_cons, spells.parts, inductionHypothesis]

/-- Lower case makes no text shorter. -/
theorem length_le_lowerFrom (before text : List Char) :
    text.length ≤ (lowerFrom before text).length := by
  induction text generalizing before with
  | nil => exact Nat.zero_le _
  | cons character rest inductionHypothesis =>
    obtain ⟨here, lowered, spells⟩ := lowerFrom_cons before character rest
    have first := spells.first
    cases here with
    | nil => cases first
    | cons head others =>
      have further := inductionHypothesis (character :: before)
      rw [lowered, List.length_append, List.length_cons, List.length_cons]
      omega

/-- A text in lower case is a word exactly if the text is. -/
theorem isJavaWord_lowerFrom (before text : List Char) :
    isJavaWord (lowerFrom before text) = isJavaWord text := by
  cases text with
  | nil => rfl
  | cons character rest =>
    obtain ⟨here, lowered, spells⟩ := lowerFrom_cons before character rest
    rw [lowered, spells.isJavaWord_append, all_lowerFrom, isJavaWord]

/-- The characters of a word are parts of words. -/
theorem all_of_isJavaWord {text : List Char} (word : isJavaWord text = true) :
    (text.all fun part => isPartCode part.toNat) = true := by
  cases text with
  | nil => rfl
  | cons first rest =>
    rw [isJavaWord, Bool.and_eq_true] at word
    rw [List.all_cons, isPartCode_of_isLetterCode word.1, word.2, Bool.and_self]

/-- A word behind which parts of words are written is one. -/
theorem isJavaWord_append (text more : List Char) (nonempty : text ≠ []) :
    isJavaWord (text ++ more) =
      (isJavaWord text && more.all fun part => isPartCode part.toNat) := by
  cases text with
  | nil => exact absurd rfl nonempty
  | cons first rest =>
    rw [List.cons_append, isJavaWord, isJavaWord, List.all_append, Bool.and_assoc]

/-- No word has a character that is no part of words. -/
theorem not_isJavaWord_of_mem {text : List Char} {character : Char} (written : character ∈ text)
    (foreign : isPartCode character.toNat = false) : isJavaWord text = false := by
  rw [← Bool.not_eq_true]
  intro word
  have part := List.all_eq_true.mp (all_of_isJavaWord word) character written
  rw [foreign] at part
  cases part

/-- Decimal numerals have parts of words only. -/
theorem all_numeral (number : Nat) :
    ((toString number).toList.all fun part => isPartCode part.toNat) = true := by
  rw [Nat.toString_eq_ofList_toDigits, String.toList_ofList, List.all_eq_true]
  intro digit written
  have digits : digit.isDigit = true := Nat.isDigit_of_mem_toDigits (by decide) (by decide) written
  rw [Char.isDigit, Bool.and_eq_true, decide_eq_true_eq, decide_eq_true_eq, ge_iff_le,
    UInt32.le_iff_toNat_le, UInt32.le_iff_toNat_le] at digits
  have sorted : furtherPartRanges.Pairwise CodeRanges.Before :=
    List.IsChain.pairwise (by decide +kernel)
  have among : (0x30, 0x39) ∈ furtherPartRanges := by decide +kernel
  have further : furtherPartRanges.contains digit.toNat = true :=
    CodeRanges.contains_of_mem sorted among digits.1 digits.2
  rw [isPartCode, further, Bool.or_true, Bool.true_or]

end TypedDefaults.Text
