import Mathlib.Algebra.Field.Rat
import Mathlib.Tactic.Ring
import TypedDefaults.Proofs.WholeLiterals

/-!
# Decimal numbers in literals

A decimal number is read as a sign, digits with a point among them, an exponent
and a letter, each but the digits optional. It is written again without plus,
without leading zeros, and with the letter of its type. Text and token have the
same form, so both are numerals here, and a numeral stands for a rational number.
The conversion accepts exactly the numerals of ASCII text; the token that it makes
is a floating literal, never a whole number, and stands for the same number. A
text is a numeral in one way only, which makes its value a property of the text.
-/

namespace TypedDefaults

open Java

namespace Literal

/-- An exponent as it is written. -/
structure Exponent where
  mark : Char
  sign : Sign
  digits : List Char
  deriving DecidableEq, Repr, Inhabited

namespace Exponent

/-- The characters of an exponent. -/
def text (exponent : Exponent) : List Char :=
  exponent.mark :: (exponent.sign.text ++ exponent.digits)

/-- The power of ten that the exponent stands for. -/
def value (exponent : Exponent) : Int :=
  exponent.sign.factor * Nat.ofDigitChars 10 exponent.digits 0

/-- The letter e, an optional sign and one digit or more. -/
structure WellFormed (exponent : Exponent) : Prop where
  mark : exponent.mark = 'e' ∨ exponent.mark = 'E'
  nonempty : exponent.digits ≠ []
  digits : ∀ digit ∈ exponent.digits, digit.isDigit = true

end Exponent

/-- A decimal number as it is written. The point is there if a fraction is, which may be empty. -/
structure DecimalNumeral where
  sign : Sign
  whole : List Char
  fraction : Option (List Char)
  exponent : Option Exponent
  suffix : Option Char
  deriving DecidableEq, Repr, Inhabited

/-- A fraction behind its point. -/
def fractionText : Option (List Char) → List Char
  | none => []
  | some digits => '.' :: digits

/-- An exponent that may be absent. -/
def exponentText : Option Exponent → List Char
  | none => []
  | some exponent => exponent.text

/-- What ends a decimal number: an exponent and a letter, both optional. -/
structure Ending (exponent : Option Exponent) (suffix : Option Char) : Prop where
  exponent : ∀ one ∈ exponent, one.WellFormed
  suffix : ∀ letter ∈ suffix, letter ∈ ['f', 'F', 'd', 'D']

namespace DecimalNumeral

/-- The characters of the numeral. -/
def text (numeral : DecimalNumeral) : List Char :=
  numeral.sign.text ++ (numeral.whole ++ (fractionText numeral.fraction ++
    (exponentText numeral.exponent ++ numeral.suffix.toList)))

/-- The rational number that the numeral stands for. -/
def value (numeral : DecimalNumeral) : ℚ :=
  numeral.sign.factor *
    Nat.ofDigitChars 10 (numeral.whole ++ numeral.fraction.getD []) 0 *
    10 ^ ((numeral.exponent.map Exponent.value).getD 0 - (numeral.fraction.getD []).length)

/-- A text is a numeral if it is an optional sign, digits with an optional point among them, in
front of them or behind them, an optional exponent and an optional letter f, F, d or D. -/
structure SpelledAs (numeral : DecimalNumeral) (text : List Char) : Prop where
  written : numeral.text = text
  whole : ∀ digit ∈ numeral.whole, digit.isDigit = true
  fraction : ∀ digit ∈ numeral.fraction.getD [], digit.isDigit = true
  nonempty : numeral.whole ≠ [] ∨ numeral.fraction.getD [] ≠ []
  ending : Ending numeral.exponent numeral.suffix

/-- A numeral is a floating literal of a kind if it has no plus, no leading zeros before another
digit, the letter f for floats and none for doubles, and at least one of point, exponent and letter:
digits alone would be a whole number. -/
structure IsToken (numeral : DecimalNumeral) (kind : Kind) : Prop where
  spelled : numeral.SpelledAs numeral.text
  sign : numeral.sign ≠ .plus
  whole : numeral.whole = [] ∨ PlainDigits numeral.whole
  floating : numeral.fraction.isSome ∨ numeral.exponent.isSome ∨ numeral.suffix.isSome
  suffix : numeral.suffix = if kind = .float then some 'f' else none

end DecimalNumeral

/-- In ASCII, only core's digits are digits. -/
theorem isDigit_of_ascii {character : Char} (ascii : character.toNat < 128)
    (digit : Text.isDigit character = true) : character.isDigit = true := by
  rw [Char.isDigit_iff_toNat]
  by_contra other
  have foreign : Text.digitValue? character = none := by
    have first : Text.CodeRanges.start? Text.digitRuns character.toNat = none := by
      rw [Text.digitRuns, Text.CodeRanges.start?, if_pos (by omega)]
    exact (if_neg other).trans (by rw [first]; rfl)
  rw [Text.isDigit, foreign] at digit
  cases digit

/-- ASCII digits are digits. -/
theorem isDigit_all {digits : List Char} (ascii : ∀ digit ∈ digits, digit.isDigit = true) :
    ∀ digit ∈ digits, Text.isDigit digit = true :=
  fun digit inside => Text.isDigit_of_isDigit digit (ascii digit inside)

/-- The ending starts with a mark. -/
theorem Ending.head?_mem {exponent : Option Exponent} {suffix : Option Char}
    (ending : Ending exponent suffix) :
    ∀ first ∈ (exponentText exponent ++ suffix.toList).head?,
      first ∈ ['e', 'E', 'f', 'F', 'd', 'D'] := by
  intro first starts
  cases exponent with
  | none =>
    cases suffix with
    | none => cases starts
    | some letter =>
      obtain rfl : letter = first := Option.some.inj starts
      exact List.mem_cons_of_mem _ (List.mem_cons_of_mem _ (ending.suffix letter rfl))
  | some exponent =>
    obtain rfl : exponent.mark = first := Option.some.inj starts
    rcases (ending.exponent exponent rfl).mark with same | same <;> simp [same]

/-- The ending starts with no digit. -/
theorem Ending.not_isDigit {exponent : Option Exponent} {suffix : Option Char}
    (ending : Ending exponent suffix) :
    ∀ first ∈ (exponentText exponent ++ suffix.toList).head?, Text.isDigit first = false := by
  have marks : ∀ mark ∈ ['e', 'E', 'f', 'F', 'd', 'D'], Text.isDigit mark = false := by
    simp only [List.mem_cons, List.not_mem_nil, or_false, forall_eq_or_imp, forall_eq]
    decide
  exact fun first starts => marks first (ending.head?_mem first starts)

/-- Digits are taken off up to the point, or up to what follows where there is none. -/
theorem leadingDigits_fraction {whole tail : List Char} (fraction : Option (List Char))
    (all : ∀ digit ∈ whole, digit.isDigit = true)
    (ends : ∀ first ∈ tail.head?, Text.isDigit first = false) :
    leadingDigits (whole ++ (fractionText fraction ++ tail)) =
      (whole, fractionText fraction ++ tail) := by
  refine leadingDigits_append whole _ (isDigit_all all) fun first starts => ?_
  cases fraction with
  | none => exact ends first starts
  | some digits =>
    obtain rfl : '.' = first := Option.some.inj starts
    decide

/-- Digits are not signs. -/
theorem unsigned_of_digits {digits : List Char} (nonempty : digits ≠ [])
    (all : ∀ digit ∈ digits, digit.isDigit = true) (rest : List Char) :
    (digits ++ rest).head? ≠ some '+' ∧ (digits ++ rest).head? ≠ some '-' := by
  obtain ⟨first, others, rfl⟩ := List.exists_cons_of_ne_nil nonempty
  have digit : first.isDigit = true := all first List.mem_cons_self
  constructor <;> rintro ⟨⟩ <;> cases digit

/-- An exponent is passed over up to the letter behind it. -/
theorem Ending.afterExponent? {exponent : Option Exponent} {suffix : Option Char}
    (ending : Ending exponent suffix) :
    afterExponent? (exponentText exponent ++ suffix.toList) = some suffix.toList := by
  cases exponent with
  | none =>
    cases suffix with
    | none => rfl
    | some letter =>
      have other : ∀ mark ∈ ['f', 'F', 'd', 'D'], (mark = 'e' || mark = 'E') = false := by simp
      show (if (letter = 'e' || letter = 'E') = true then _ else _) = _
      rw [other letter (ending.suffix letter rfl)]
      rfl
  | some exponent =>
    obtain ⟨mark, nonempty, digits⟩ := ending.exponent exponent rfl
    have marked : (exponent.mark = 'e' || exponent.mark = 'E') = true := by simpa using mark
    have suffixOnly : Ending none suffix := ⟨by simp, ending.suffix⟩
    have letters : ∀ first ∈ suffix.toList.head?, Text.isDigit first = false :=
      suffixOnly.not_isDigit
    have taken := leadingDigits_append exponent.digits suffix.toList (isDigit_all digits) letters
    rw [exponentText, Exponent.text, List.cons_append, List.append_assoc, Literal.afterExponent?,
      if_pos marked, splitSign_text _ _ (unsigned_of_digits nonempty digits _)]
    dsimp only
    rw [taken]
    obtain ⟨first, others, same⟩ := List.exists_cons_of_ne_nil nonempty
    rw [same]

/-- What is taken off a text are digits in front of the rest. -/
theorem digits_of_leadingDigits {text digits rest : List Char}
    (taken : leadingDigits text = (digits, rest)) :
    text = digits ++ rest ∧ ∀ digit ∈ digits, Text.isDigit digit = true := by
  obtain ⟨rfl, rfl⟩ := Prod.mk.inj taken
  exact ⟨List.takeWhile_append_dropWhile.symm, fun _ inside => List.mem_takeWhile_imp inside⟩

/-- What is left of a text without its leading digits begins with no digit. -/
theorem not_isDigit_of_leadingDigits {text digits rest : List Char}
    (taken : leadingDigits text = (digits, rest)) :
    ∀ first ∈ rest.head?, Text.isDigit first = false := by
  obtain ⟨rfl, rfl⟩ := Prod.mk.inj taken
  intro first starts
  have other := List.head?_dropWhile_not Text.isDigit text
  rw [starts] at other
  exact other

/-- The leading digits of an ASCII text are ASCII digits. -/
theorem asciiDigits_of_leadingDigits {text digits rest : List Char}
    (ascii : ∀ one ∈ text, one.toNat < 128) (taken : leadingDigits text = (digits, rest)) :
    text = digits ++ rest ∧ ∀ digit ∈ digits, digit.isDigit = true := by
  obtain ⟨rfl, all⟩ := digits_of_leadingDigits taken
  exact ⟨rfl, fun digit inside =>
    isDigit_of_ascii (ascii digit (List.mem_append_left _ inside)) (all digit inside)⟩

/-- What is passed over in front of the rest is an exponent, or nothing. -/
theorem exists_exponent {text tail : List Char} (ascii : ∀ one ∈ text, one.toNat < 128)
    (passed : afterExponent? text = some tail) :
    ∃ exponent, (∀ one ∈ exponent, Exponent.WellFormed one) ∧
      text = exponentText exponent ++ tail := by
  cases text with
  | nil =>
    obtain rfl := Option.some.inj passed
    exact ⟨none, by simp, rfl⟩
  | cons mark rest =>
    rw [afterExponent?] at passed
    split at passed
    · rename_i marked
      obtain ⟨sign, whole⟩ := exists_sign rest
      split at passed
      · cases passed
      · rename_i digits behind nonempty taken
        obtain rfl := Option.some.inj passed
        have asciiRest : ∀ one ∈ (Numeral.splitSign rest).2, one.toNat < 128 := by
          intro one inside
          refine ascii one (List.mem_cons_of_mem _ ?_)
          rw [whole]
          exact List.mem_append_right _ inside
        obtain ⟨parts, all⟩ := asciiDigits_of_leadingDigits asciiRest taken
        refine ⟨some ⟨mark, sign, digits⟩, ?_, ?_⟩
        · rintro _ ⟨rfl⟩
          exact ⟨by simpa using marked, nonempty, all⟩
        · rw [exponentText, Exponent.text, List.cons_append, List.append_assoc, ← parts, ← whole]
    · obtain rfl := Option.some.inj passed
      exact ⟨none, by simp, rfl⟩

/-- An ending is an exponent that is passed over and at most one letter behind it. -/
theorem ending_iff {tail : List Char} (ascii : ∀ one ∈ tail, one.toNat < 128) :
    (∃ suffix : Option Char, afterExponent? tail = some suffix.toList ∧
      ∀ letter ∈ suffix, isSuffix letter = true) ↔
    ∃ exponent suffix, Ending exponent suffix ∧ tail = exponentText exponent ++ suffix.toList := by
  have letter_iff : ∀ letter : Char, isSuffix letter = true ↔ letter ∈ ['f', 'F', 'd', 'D'] := by
    intro letter
    simp [isSuffix, or_assoc]
  constructor
  · rintro ⟨suffix, passed, letters⟩
    obtain ⟨exponent, wellFormed, rfl⟩ := exists_exponent ascii passed
    exact ⟨exponent, suffix,
      ⟨wellFormed, fun letter one => (letter_iff letter).mp (letters letter one)⟩, rfl⟩
  · rintro ⟨exponent, suffix, ending, rfl⟩
    exact ⟨suffix, ending.afterExponent?,
      fun letter one => (letter_iff letter).mpr (ending.suffix letter one)⟩

/-- The digits behind a point and the rest, which is everything where there is no point. -/
def behindPoint : List Char → List Char × List Char
  | '.' :: rest => leadingDigits rest
  | rest => ([], rest)

/-- The fraction is taken off behind its point. -/
theorem behindPoint_append {tail : List Char} {fraction : Option (List Char)}
    (digits : ∀ digit ∈ fraction.getD [], digit.isDigit = true)
    (ends : ∀ first ∈ tail.head?, Text.isDigit first = false)
    (pointless : fraction = none → tail.head? ≠ some '.') :
    behindPoint (fractionText fraction ++ tail) = (fraction.getD [], tail) := by
  cases fraction with
  | some one => exact leadingDigits_append one tail (isDigit_all digits) ends
  | none =>
    rw [fractionText, List.nil_append, behindPoint.eq_def]
    split
    · exact absurd rfl (pointless rfl)
    · rfl

/-- Whether at most one letter is left of a decimal number. -/
def isLetterLeft : Option (List Char) → Bool
  | none => false
  | some [] => true
  | some [suffix] => isSuffix suffix
  | some _ => false

/-- The letter is one that may end a decimal number. -/
theorem isLetterLeft_iff (passed : Option (List Char)) :
    isLetterLeft passed = true ↔ ∃ suffix : Option Char, passed = some suffix.toList ∧
      ∀ letter ∈ suffix, isSuffix letter = true := by
  constructor
  · intro accepted
    rw [isLetterLeft.eq_def] at accepted
    split at accepted
    · cases accepted
    · exact ⟨none, rfl, by simp⟩
    · rename_i letter
      exact ⟨some letter, rfl, by simpa using accepted⟩
    · cases accepted
  · rintro ⟨_ | letter, rfl, letters⟩
    · rfl
    · exact letters letter rfl

/-- A number without sign is read digits first, then the point and more digits, then the rest. -/
theorem isUnsignedDecimal_eq (text : List Char) :
    isUnsignedDecimal text =
      if (leadingDigits text).1.isEmpty && (behindPoint (leadingDigits text).2).1.isEmpty then false
      else isLetterLeft (afterExponent? (behindPoint (leadingDigits text).2).2) := rfl

/-- A number without sign is accepted if it has digits before the point or behind it and then an
exponent and at most one letter. -/
theorem isUnsignedDecimal_iff {whole tail : List Char} {fraction : Option (List Char)}
    (wholeDigits : ∀ digit ∈ whole, digit.isDigit = true)
    (fractionDigits : ∀ digit ∈ fraction.getD [], digit.isDigit = true)
    (ends : ∀ first ∈ tail.head?, Text.isDigit first = false)
    (pointless : fraction = none → tail.head? ≠ some '.') :
    isUnsignedDecimal (whole ++ (fractionText fraction ++ tail)) = true ↔
      (whole ≠ [] ∨ fraction.getD [] ≠ []) ∧ ∃ suffix : Option Char,
        afterExponent? tail = some suffix.toList ∧ ∀ letter ∈ suffix, isSuffix letter = true := by
  rw [isUnsignedDecimal_eq, leadingDigits_fraction fraction wholeDigits ends]
  dsimp only
  rw [behindPoint_append fractionDigits ends pointless, ← isLetterLeft_iff]
  cases whole <;> cases fraction.getD [] <;> simp

/-- Every ASCII text begins with digits, a point and digits, each of them optional. -/
theorem exists_fraction {text : List Char} (ascii : ∀ one ∈ text, one.toNat < 128) :
    ∃ (whole tail : List Char) (fraction : Option (List Char)),
      text = whole ++ (fractionText fraction ++ tail) ∧
      (∀ digit ∈ whole, digit.isDigit = true) ∧
      (∀ digit ∈ fraction.getD [], digit.isDigit = true) ∧
      (∀ first ∈ tail.head?, Text.isDigit first = false) ∧
      (fraction = none → tail.head? ≠ some '.') := by
  cases taken : leadingDigits text with
  | mk whole rest =>
    obtain ⟨rfl, wholeDigits⟩ := asciiDigits_of_leadingDigits ascii taken
    by_cases point : rest.head? = some '.'
    · obtain ⟨behind, rfl⟩ := List.head?_eq_some_iff.mp point
      cases takenBehind : leadingDigits behind with
      | mk digits tail =>
        have asciiBehind : ∀ one ∈ behind, one.toNat < 128 := fun one inside =>
          ascii one (List.mem_append_right _ (List.mem_cons_of_mem _ inside))
        obtain ⟨rfl, fractionDigits⟩ := asciiDigits_of_leadingDigits asciiBehind takenBehind
        exact ⟨whole, tail, some digits, rfl, wholeDigits, fractionDigits,
          not_isDigit_of_leadingDigits takenBehind, by simp⟩
    · exact ⟨whole, rest, none, rfl, wholeDigits, by simp, not_isDigit_of_leadingDigits taken,
        fun _ => point⟩

/-- What stands in front of a number without sign is split off as its sign. -/
theorem DecimalNumeral.SpelledAs.unsigned {numeral : DecimalNumeral} {text : List Char}
    (spelled : numeral.SpelledAs text) (rest : List Char) :
    (numeral.whole ++ (fractionText numeral.fraction ++ rest)).head? ≠ some '+' ∧
      (numeral.whole ++ (fractionText numeral.fraction ++ rest)).head? ≠ some '-' := by
  by_cases bare : numeral.whole = []
  · cases fraction : numeral.fraction with
    | none =>
      have neither := spelled.nonempty
      simp [bare, fraction] at neither
    | some digits => simp [bare, fractionText]
  · exact unsigned_of_digits bare spelled.whole _

/-- No ending begins with a point. -/
theorem Ending.head?_ne_point {exponent : Option Exponent} {suffix : Option Char}
    (ending : Ending exponent suffix) :
    (exponentText exponent ++ suffix.toList).head? ≠ some '.' := by
  intro point
  simpa using ending.head?_mem '.' point

/-- The texts of decimal numbers are the numerals. -/
theorem isDecimal_iff {text : List Char} (ascii : ∀ one ∈ text, one.toNat < 128)
    (oneLine : '\n' ∉ text) :
    isDecimal text = true ↔ ∃ numeral : DecimalNumeral, numeral.SpelledAs text := by
  rw [isDecimal, withoutFinalLineFeed_self oneLine]
  constructor
  · intro accepted
    obtain ⟨sign, signed⟩ := exists_sign text
    have asciiUnsigned : ∀ one ∈ (Numeral.splitSign text).2, one.toNat < 128 := by
      intro one inside
      refine ascii one ?_
      rw [signed]
      exact List.mem_append_right _ inside
    obtain ⟨whole, tail, fraction, unsigned, wholeDigits, fractionDigits, ends, pointless⟩ :=
      exists_fraction asciiUnsigned
    rw [unsigned, isUnsignedDecimal_iff wholeDigits fractionDigits ends pointless, ending_iff]
      at accepted
    · obtain ⟨nonempty, exponent, suffix, ending, rfl⟩ := accepted
      refine ⟨⟨sign, whole, fraction, exponent, suffix⟩, ?_, wholeDigits, fractionDigits, nonempty,
        ending⟩
      rw [DecimalNumeral.text, ← unsigned]
      exact signed.symm
    · intro one inside
      refine asciiUnsigned one ?_
      rw [unsigned]
      exact List.mem_append_right _ (List.mem_append_right _ inside)
  · rintro ⟨numeral, spelled⟩
    have unsigned := spelled.unsigned (exponentText numeral.exponent ++ numeral.suffix.toList)
    rw [← spelled.written, DecimalNumeral.text, splitSign_text numeral.sign _ unsigned,
      isUnsignedDecimal_iff spelled.whole spelled.fraction spelled.ending.not_isDigit
        fun _ => spelled.ending.head?_ne_point, ending_iff]
    · exact ⟨spelled.nonempty, _, _, spelled.ending, rfl⟩
    · intro one inside
      refine ascii one ?_
      rw [← spelled.written, DecimalNumeral.text]
      exact List.mem_append_right _ (List.mem_append_right _ (List.mem_append_right _ inside))

namespace DecimalNumeral

/-- The numeral without plus and leading zeros. -/
def plain (numeral : DecimalNumeral) : DecimalNumeral where
  sign := if numeral.sign = .minus then .minus else .none
  whole := withoutLeadingZeros numeral.whole
  fraction := numeral.fraction
  exponent := numeral.exponent
  suffix := numeral.suffix

/-- The numeral that a numeral is written as for a kind. -/
def token (kind : Kind) (numeral : DecimalNumeral) : DecimalNumeral where
  sign := if numeral.sign = .minus then .minus else .none
  whole := withoutLeadingZeros numeral.whole
  fraction :=
    if kind ≠ .float ∧ numeral.fraction = none ∧ numeral.exponent = none then some ['0']
    else numeral.fraction
  exponent := numeral.exponent
  suffix := if kind = .float then some 'f' else none

end DecimalNumeral

/-- Nothing but digits is left of digits without leading zeros. -/
theorem isDigit_withoutLeadingZeros {digits : List Char}
    (all : ∀ digit ∈ digits, digit.isDigit = true) :
    ∀ digit ∈ withoutLeadingZeros digits, digit.isDigit = true := by
  intro digit inside
  rw [withoutLeadingZeros] at inside
  split at inside
  · cases inside
  · dsimp only at inside
    split at inside
    · obtain rfl : digit = '0' := by simpa using inside
      decide
    · exact all digit ((List.dropWhile_sublist _).subset inside)

/-- Digits without leading zeros are none, or plain. -/
theorem plainDigits_withoutLeadingZeros {digits : List Char}
    (all : ∀ digit ∈ digits, digit.isDigit = true) (nonempty : digits ≠ []) :
    PlainDigits (withoutLeadingZeros digits) := by
  have ascii := isDigit_withoutLeadingZeros all
  rw [withoutLeadingZeros, if_neg (by simpa using nonempty)] at ascii ⊢
  dsimp only at ascii ⊢
  split at ascii
  · rename_i zeros
    rw [if_pos zeros]
    exact ⟨by simp, ascii, fun _ => rfl⟩
  · rename_i significant
    rw [if_neg significant]
    refine ⟨by simpa using significant, ascii, fun zero => ?_⟩
    have other := List.head?_dropWhile_not (fun digit => decide (digit = '0')) digits
    rw [zero] at other
    simp at other

/-- Leading zeros do not count. -/
theorem ofDigitChars_withoutLeadingZeros (digits : List Char) :
    Nat.ofDigitChars 10 (withoutLeadingZeros digits) 0 = Nat.ofDigitChars 10 digits 0 := by
  have dropped : Nat.ofDigitChars 10 (digits.dropWhile (· = '0')) 0 =
      Nat.ofDigitChars 10 digits 0 := by
    induction digits with
    | nil => rfl
    | cons digit rest inductionHypothesis =>
      by_cases zero : digit = '0'
      · rw [zero, List.dropWhile_cons_of_pos (by simp), inductionHypothesis]
        rw [Nat.ofDigitChars_cons]
        rfl
      · rw [List.dropWhile_cons_of_neg (by simpa using zero)]
  rw [withoutLeadingZeros]
  split
  · rename_i none
    rw [List.isEmpty_iff.mp none]
  · dsimp only
    split
    · rename_i zeros
      rw [← dropped, List.isEmpty_iff.mp zeros]
      rfl
    · exact dropped

/-- The letter at the end of a text is taken off where there is no other in the text. -/
theorem withoutSuffix_append (text : List Char) (suffix : Option Char)
    (letters : ∀ letter ∈ suffix, isSuffix letter = true)
    (others : ∀ one ∈ text, isSuffix one = false) :
    withoutSuffix (text ++ suffix.toList) = text := by
  have kept : text.reverse.dropWhile isSuffix = text.reverse := by
    rw [List.dropWhile_eq_self_iff]
    intro nonempty
    rw [others _ (List.mem_reverse.mp (List.getElem_mem nonempty))]
    simp
  have removed : ∀ letter ∈ suffix.toList.reverse, isSuffix letter = true := by
    intro letter inside
    exact letters letter (by simpa using inside)
  rw [withoutSuffix, List.reverse_append, List.dropWhile_append_of_pos removed, kept,
    List.reverse_reverse]

/-- A plus is taken off; a minus, and no sign, stay. -/
theorem dropWhile_plus (sign : Sign) (rest : List Char) (unsigned : rest.head? ≠ some '+') :
    (sign.text ++ rest).dropWhile (· = '+') =
      (if sign = .minus then Sign.minus else .none).text ++ rest := by
  have kept : rest.dropWhile (· = '+') = rest := by
    cases rest with
    | nil => rfl
    | cons first others =>
      exact List.dropWhile_cons_of_neg (by simpa using unsigned)
  cases sign with
  | none => exact kept
  | plus => exact kept
  | minus => rfl

/-- The minus in front of a text and the rest. -/
def minusOf : List Char → List Char × List Char
  | '-' :: rest => (['-'], rest)
  | rest => ([], rest)

/-- A minus is told from what follows it. -/
theorem minusOf_text {sign : Sign} {rest : List Char} (other : sign ≠ .plus)
    (unsigned : rest.head? ≠ some '-') : minusOf (sign.text ++ rest) = (sign.text, rest) := by
  cases sign with
  | none =>
    rw [Sign.text, List.nil_append, minusOf.eq_def]
    split
    · exact absurd rfl unsigned
    · rfl
  | plus => exact absurd rfl other
  | minus => rfl

/-- What a kind asks for behind a number whose point and exponent are given. -/
def tailOf (kind : Kind) (rest : List Char) : List Char :=
  if kind = .float then ['f']
  else if rest.any (fun mark => mark = '.' || mark = 'e' || mark = 'E') then []
  else ['.', '0']

/-- The token of a text is made of its minus, its digits, and the rest of the line. -/
theorem decimalToken_eq (kind : Kind) (text : List Char) :
    decimalToken kind text =
      let signed := minusOf (withoutSuffix (text.dropWhile (· = '+')))
      let rest := (leadingDigits signed.2).2.takeWhile (· ≠ '\n')
      String.ofList (signed.1 ++ withoutLeadingZeros (leadingDigits signed.2).1 ++ rest ++
        tailOf kind rest) := rfl

/-- A double gets a fraction if it has neither fraction nor exponent. -/
theorem tailOf_eq (kind : Kind) (fraction : Option (List Char)) {exponent : Option Exponent}
    (wellFormed : ∀ one ∈ exponent, one.WellFormed) :
    tailOf kind (fractionText fraction ++ exponentText exponent) =
      if kind = .float then ['f'] else if fraction = none ∧ exponent = none then ['.', '0']
      else [] := by
  rw [tailOf]
  by_cases float : kind = .float
  · simp [float]
  · cases fraction with
    | some digits => simp [float, fractionText]
    | none =>
      cases exponent with
      | none => simp [float, fractionText, exponentText]
      | some one =>
        have marked : one.mark = 'e' ∨ one.mark = 'E' := (wellFormed one rfl).mark
        rcases marked with mark | mark <;>
          simp [float, fractionText, exponentText, Exponent.text, mark]

/-- A letter that ends a number does not count for what a kind asks for behind the number. -/
theorem tailOf_letter (kind : Kind) (rest : List Char) {suffix : Option Char}
    (letters : ∀ letter ∈ suffix, letter ∈ ['f', 'F', 'd', 'D']) :
    tailOf kind (rest ++ suffix.toList) = tailOf kind rest := by
  have marks : ∀ letter ∈ ['f', 'F', 'd', 'D'],
      (letter = '.' || letter = 'e' || letter = 'E') = false := by
    simp
  have none : suffix.toList.any (fun mark => mark = '.' || mark = 'e' || mark = 'E') = false := by
    rw [List.any_eq_false]
    intro letter inside
    rw [marks letter (letters letter (Option.mem_toList.mp inside))]
    exact Bool.false_ne_true
  rw [tailOf, tailOf, List.any_append, none, Bool.or_false]

namespace DecimalNumeral

/-- In front of the letter, a numeral has digits, signs, points and marks of exponents. -/
theorem SpelledAs.isDigit_or_mark {numeral : DecimalNumeral} {text : List Char}
    (spelled : numeral.SpelledAs text) (sign : Sign) :
    ∀ one ∈ sign.text ++ (numeral.whole ++ (fractionText numeral.fraction ++
      exponentText numeral.exponent)), one.isDigit = true ∨ one ∈ ['+', '-', '.', 'e', 'E'] := by
  have signs : ∀ (sign : Sign), ∀ one ∈ sign.text, one ∈ ['+', '-', '.', 'e', 'E'] := by
    rintro (_ | _ | _) <;> simp [Sign.text]
  intro one inside
  rcases List.mem_append.mp inside with inside | inside
  · exact .inr (signs sign one inside)
  rcases List.mem_append.mp inside with inside | inside
  · exact .inl (spelled.whole one inside)
  rcases List.mem_append.mp inside with inside | inside
  · cases fraction : numeral.fraction with
    | none => simp [fraction, fractionText] at inside
    | some behind =>
      rw [fraction] at inside
      rcases List.mem_cons.mp inside with rfl | inside
      · exact .inr (by simp)
      · exact .inl (spelled.fraction one (by rwa [fraction]))
  · cases given : numeral.exponent with
    | none => simp [given, exponentText] at inside
    | some exponent =>
      obtain ⟨mark, _, all⟩ := spelled.ending.exponent exponent given
      rw [given] at inside
      rcases List.mem_cons.mp inside with rfl | inside
      · rcases mark with same | same <;> simp [same]
      · rcases List.mem_append.mp inside with inside | inside
        · exact .inr (signs exponent.sign one inside)
        · exact .inl (all one inside)

/-- In front of the letter, a numeral has no letter that ends a number. -/
theorem SpelledAs.not_isSuffix {numeral : DecimalNumeral} {text : List Char}
    (spelled : numeral.SpelledAs text) (sign : Sign) :
    ∀ one ∈ sign.text ++ (numeral.whole ++ (fractionText numeral.fraction ++
      exponentText numeral.exponent)), isSuffix one = false := by
  have marks : ∀ mark ∈ ['+', '-', '.', 'e', 'E'], isSuffix mark = false := by
    simp [isSuffix]
  intro one inside
  rcases spelled.isDigit_or_mark sign one inside with digit | mark
  · simp only [isSuffix, Bool.or_eq_false_iff, decide_eq_false_iff_not]
    refine ⟨⟨⟨?_, ?_⟩, ?_⟩, ?_⟩ <;> rintro rfl <;> cases digit
  · exact marks one mark

/-- The token of a text is made of the parts of a numeral, if these are what is left of the text
without plus and without letters at its end. A letter of the numeral may be left, and behind it a
line feed, at which the token ends. -/
theorem SpelledAs.decimalToken_of_left {numeral : DecimalNumeral} {body text : List Char}
    (spelled : numeral.SpelledAs body) (oneLine : '\n' ∉ body) (kind : Kind) (letter : Option Char)
    (lost : List Char) (own : ∀ one ∈ letter, one ∈ numeral.suffix)
    (ends : ∀ first ∈ lost.head?, first = '\n')
    (left : withoutSuffix (text.dropWhile (· = '+')) =
      (if numeral.sign = .minus then Sign.minus else .none).text ++ (numeral.whole ++
        (fractionText numeral.fraction ++ (exponentText numeral.exponent ++ letter.toList ++
          lost)))) :
    decimalToken kind text =
      let rest := fractionText numeral.fraction ++ (exponentText numeral.exponent ++ letter.toList)
      String.ofList ((if numeral.sign = .minus then Sign.minus else .none).text ++
        withoutLeadingZeros numeral.whole ++ rest ++ tailOf kind rest) := by
  have ending : Ending numeral.exponent letter :=
    ⟨spelled.ending.exponent, fun one given => spelled.ending.suffix one (own one given)⟩
  have noDigit : ∀ first ∈ (exponentText numeral.exponent ++ letter.toList ++ lost).head?,
      Text.isDigit first = false := by
    intro first starts
    rw [List.head?_append, Option.mem_def, Option.or_eq_some_iff] at starts
    rcases starts with starts | ⟨_, starts⟩
    · exact ending.not_isDigit first starts
    · rw [ends first starts]
      decide
  have kept : ∀ one ∈ fractionText numeral.fraction ++ (exponentText numeral.exponent ++
      letter.toList), decide (one ≠ '\n') = true := by
    rintro one inside
    rw [decide_eq_true_eq]
    rintro rfl
    refine oneLine ?_
    rw [← spelled.written, DecimalNumeral.text]
    simp only [List.mem_append, Option.mem_toList] at inside ⊢
    exact .inr (.inr (inside.imp_right (Or.imp_right (own _))))
  have lostEnds : lost.takeWhile (· ≠ '\n') = [] := by
    cases lost with
    | nil => rfl
    | cons first behind =>
      rw [ends first rfl]
      rfl
  have noPlus : (if numeral.sign = .minus then Sign.minus else .none) ≠ .plus := by split <;> simp
  have unsigned := spelled.unsigned (exponentText numeral.exponent ++ letter.toList ++ lost)
  rw [decimalToken_eq, left, minusOf_text noPlus unsigned.2]
  dsimp only
  rw [leadingDigits_fraction numeral.fraction spelled.whole noDigit]
  dsimp only
  rw [← List.append_assoc (fractionText numeral.fraction), List.takeWhile_append_of_pos kept,
    lostEnds, List.append_nil]

/-- In front of more text, a numeral without its plus is its parts. -/
theorem SpelledAs.dropWhile_plus {numeral : DecimalNumeral} {text : List Char}
    (spelled : numeral.SpelledAs text) (behind : List Char) :
    (text ++ behind).dropWhile (· = '+') =
      (if numeral.sign = .minus then Sign.minus else .none).text ++ (numeral.whole ++
        (fractionText numeral.fraction ++ exponentText numeral.exponent)) ++
          numeral.suffix.toList ++ behind := by
  have unsigned := (spelled.unsigned
    (exponentText numeral.exponent ++ (numeral.suffix.toList ++ behind))).1
  rw [← spelled.written, DecimalNumeral.text]
  simp only [List.append_assoc]
  exact Literal.dropWhile_plus numeral.sign _ unsigned

/-- The text of the token of a numeral, part by part. -/
theorem SpelledAs.text_token {numeral : DecimalNumeral} {text : List Char}
    (spelled : numeral.SpelledAs text) (kind : Kind) :
    (numeral.token kind).text =
      let rest := fractionText numeral.fraction ++ exponentText numeral.exponent
      (if numeral.sign = .minus then Sign.minus else .none).text ++
        withoutLeadingZeros numeral.whole ++ rest ++ tailOf kind rest := by
  dsimp only
  rw [tailOf_eq kind numeral.fraction spelled.ending.exponent, DecimalNumeral.text, token]
  dsimp only
  by_cases float : kind = .float
  · simp [float]
  · by_cases bare : numeral.fraction = none ∧ numeral.exponent = none
    · simp [float, bare, fractionText, exponentText]
    · have given : ¬(kind ≠ .float ∧ numeral.fraction = none ∧ numeral.exponent = none) :=
        fun added => bare added.2
      rw [if_neg given, if_neg float, if_neg float, if_neg bare]
      simp only [Option.toList_none, List.append_nil, List.append_assoc]

/-- The token of a numeral is made of its parts. -/
theorem SpelledAs.decimalToken {numeral : DecimalNumeral} {text : List Char}
    (spelled : numeral.SpelledAs text) (oneLine : '\n' ∉ text) (kind : Kind) :
    decimalToken kind text = String.ofList (numeral.token kind).text := by
  have letters : ∀ letter ∈ numeral.suffix, isSuffix letter = true := by
    have each : ∀ letter ∈ ['f', 'F', 'd', 'D'], isSuffix letter = true :=
      List.all_eq_true.mp rfl
    exact fun letter given => each letter (spelled.ending.suffix letter given)
  have left := spelled.dropWhile_plus []
  rw [List.append_nil, List.append_nil] at left
  rw [spelled.decimalToken_of_left oneLine kind none [] (by simp) (by simp), spelled.text_token]
  · simp only [Option.toList_none, List.append_nil]
  · rw [left, withoutSuffix_append _ _ letters (spelled.not_isSuffix _)]
    simp only [Option.toList_none, List.append_nil]

/-- Without plus and leading zeros a numeral is a numeral. -/
theorem SpelledAs.spelled_plain {numeral : DecimalNumeral} {text : List Char}
    (spelled : numeral.SpelledAs text) : numeral.plain.SpelledAs numeral.plain.text where
  written := rfl
  whole := isDigit_withoutLeadingZeros spelled.whole
  fraction := spelled.fraction
  nonempty := by
    by_cases bare : numeral.whole = []
    · exact .inr (spelled.nonempty.resolve_left (· bare))
    · exact .inl (plainDigits_withoutLeadingZeros spelled.whole bare).nonempty
  ending := spelled.ending

/-- The token of a numeral is a numeral. -/
theorem SpelledAs.spelled_token {numeral : DecimalNumeral} {text : List Char}
    (spelled : numeral.SpelledAs text) (kind : Kind) :
    (numeral.token kind).SpelledAs (numeral.token kind).text where
  written := rfl
  whole := spelled.spelled_plain.whole
  fraction := by
    rw [token]
    dsimp only
    split
    · exact List.all_eq_true.mp rfl
    · exact spelled.fraction
  nonempty := by
    refine spelled.spelled_plain.nonempty.imp_right fun behind => ?_
    rw [token]
    dsimp only
    split
    · decide
    · exact behind
  ending := by
    refine ⟨spelled.ending.exponent, fun letter given => ?_⟩
    rw [token] at given
    dsimp only at given
    split at given
    · obtain rfl := Option.some.inj given
      decide
    · cases given

/-- The token of a numeral for a kind is a floating literal of the kind. -/
theorem SpelledAs.isToken {numeral : DecimalNumeral} {text : List Char}
    (spelled : numeral.SpelledAs text) (kind : Kind) : (numeral.token kind).IsToken kind where
  spelled := spelled.spelled_token kind
  sign := by
    rw [token]
    dsimp only
    split <;> simp
  whole := by
    by_cases bare : numeral.whole = []
    · left
      rw [token, bare]
      rfl
    · exact .inr (plainDigits_withoutLeadingZeros spelled.whole bare)
  floating := by
    rw [token]
    dsimp only
    by_cases float : kind = .float
    · simp [float]
    · by_cases digitsAlone : numeral.fraction = none ∧ numeral.exponent = none
      · simp [float, digitsAlone]
      · rw [if_neg fun added => digitsAlone added.2]
        rw [not_and_or, ← ne_eq, ← ne_eq, Option.ne_none_iff_isSome, Option.ne_none_iff_isSome]
          at digitsAlone
        exact digitsAlone.imp_right .inl
  suffix := rfl

/-- Plus and leading zeros do not count for the number that a numeral stands for. -/
theorem value_plain (numeral : DecimalNumeral) : numeral.plain.value = numeral.value := by
  have factor : numeral.plain.sign.factor = numeral.sign.factor := by
    rw [plain]
    cases numeral.sign <;> rfl
  have digits (fraction : List Char) :
      Nat.ofDigitChars 10 (withoutLeadingZeros numeral.whole ++ fraction) 0 =
        Nat.ofDigitChars 10 (numeral.whole ++ fraction) 0 := by
    rw [Nat.ofDigitChars_append, Nat.ofDigitChars_append, ofDigitChars_withoutLeadingZeros]
  rw [value, factor, value, plain]
  dsimp only
  rw [digits]

/-- The token of a numeral stands for the number of the numeral. -/
theorem value_token (numeral : DecimalNumeral) (kind : Kind) :
    (numeral.token kind).value = numeral.value := by
  rw [← value_plain numeral, value, value, token, plain]
  dsimp only
  by_cases added : kind ≠ .float ∧ numeral.fraction = none ∧ numeral.exponent = none
  · -- One more digit makes ten times the digits and one tenth of the power.
    have tenfold : Nat.ofDigitChars 10 (withoutLeadingZeros numeral.whole ++ ['0']) 0 =
        10 * Nat.ofDigitChars 10 (withoutLeadingZeros numeral.whole) 0 := by
      rw [Nat.ofDigitChars_append]
      rfl
    rw [if_pos added, added.2.1, added.2.2, Option.getD_some, Option.getD_none, tenfold,
      List.append_nil]
    norm_num
    ring
  · rw [if_neg added]

end DecimalNumeral

/-- A sign is told from what follows it. -/
theorem sign_unique {first second : Sign} {behindFirst behindSecond : List Char}
    (unsignedFirst : behindFirst.head? ≠ some '+' ∧ behindFirst.head? ≠ some '-')
    (unsignedSecond : behindSecond.head? ≠ some '+' ∧ behindSecond.head? ≠ some '-')
    (same : first.text ++ behindFirst = second.text ++ behindSecond) :
    first = second ∧ behindFirst = behindSecond := by
  have split := splitSign_text first behindFirst unsignedFirst
  rw [same, splitSign_text second behindSecond unsignedSecond] at split
  obtain rfl : behindSecond = behindFirst := (Prod.mk.inj split).2
  have signs : first.text = second.text := List.append_cancel_right same
  refine ⟨?_, rfl⟩
  cases first <;> cases second <;> cases signs <;> rfl

/-- An exponent is told by its characters. -/
theorem exponentText_injective {first second : Option Exponent}
    (wellFormedFirst : ∀ one ∈ first, one.WellFormed)
    (wellFormedSecond : ∀ one ∈ second, one.WellFormed)
    (same : exponentText first = exponentText second) : first = second := by
  cases first with
  | none =>
    cases second with
    | none => rfl
    | some two => cases same
  | some one =>
    cases second with
    | none => cases same
    | some two =>
      obtain ⟨_, someOne, digitsOne⟩ := wellFormedFirst one rfl
      obtain ⟨_, someTwo, digitsTwo⟩ := wellFormedSecond two rfl
      have unsignedOne := unsigned_of_digits someOne digitsOne []
      have unsignedTwo := unsigned_of_digits someTwo digitsTwo []
      rw [List.append_nil] at unsignedOne unsignedTwo
      obtain ⟨mark, behind⟩ := List.cons.inj same
      obtain ⟨sign, digits⟩ := sign_unique unsignedOne unsignedTwo behind
      cases one
      cases two
      simp_all

/-- What follows the digits before a point tells whether there is one, and its digits. -/
theorem fraction_unique {first second : Option (List Char)} {behindFirst behindSecond : List Char}
    (digitsFirst : ∀ digit ∈ first.getD [], digit.isDigit = true)
    (digitsSecond : ∀ digit ∈ second.getD [], digit.isDigit = true)
    (endsFirst : ∀ one ∈ behindFirst.head?, Text.isDigit one = false)
    (endsSecond : ∀ one ∈ behindSecond.head?, Text.isDigit one = false)
    (noPointFirst : behindFirst.head? ≠ some '.') (noPointSecond : behindSecond.head? ≠ some '.')
    (same : fractionText first ++ behindFirst = fractionText second ++ behindSecond) :
    first = second ∧ behindFirst = behindSecond := by
  have split := behindPoint_append digitsFirst endsFirst fun _ => noPointFirst
  rw [same, behindPoint_append digitsSecond endsSecond fun _ => noPointSecond] at split
  obtain ⟨digits, rfl⟩ := Prod.mk.inj split
  have points : fractionText first = fractionText second := List.append_cancel_right same
  refine ⟨?_, rfl⟩
  cases first <;> cases second <;> cases points <;> rfl

/-- A text is a numeral in one way. -/
theorem DecimalNumeral.SpelledAs.unique {first second : DecimalNumeral} {text : List Char}
    (spelledFirst : first.SpelledAs text) (spelledSecond : second.SpelledAs text) :
    first = second := by
  have endsFirst := spelledFirst.ending.not_isDigit
  have endsSecond := spelledSecond.ending.not_isDigit
  obtain ⟨sign, unsigned⟩ := sign_unique (spelledFirst.unsigned _) (spelledSecond.unsigned _)
    (spelledFirst.written.trans spelledSecond.written.symm)
  have taken := leadingDigits_fraction first.fraction spelledFirst.whole endsFirst
  rw [unsigned, leadingDigits_fraction second.fraction spelledSecond.whole endsSecond] at taken
  obtain ⟨whole, behind⟩ := Prod.mk.inj taken
  obtain ⟨fraction, ending⟩ := fraction_unique spelledFirst.fraction spelledSecond.fraction
    endsFirst endsSecond spelledFirst.ending.head?_ne_point spelledSecond.ending.head?_ne_point
    behind.symm
  have passed := spelledFirst.ending.afterExponent?
  rw [ending, spelledSecond.ending.afterExponent?] at passed
  have letters : second.suffix.toList = first.suffix.toList := Option.some.inj passed
  have suffix : first.suffix = second.suffix := by
    simpa using congrArg List.head? letters.symm
  rw [letters] at ending
  have exponent := exponentText_injective spelledFirst.ending.exponent
    spelledSecond.ending.exponent (List.append_cancel_right ending)
  cases first
  cases second
  simp_all

/-- A token is converted to a decimal number by making a token of its text. -/
theorem convert_decimal {kind : Kind} (decimal : kind = .float ∨ kind = .double) (token : String) :
    ∃ keyword, keyword? kind = some keyword ∧
      convert kind token = .ok (if isDecimal (unquote token).toList = true then
        some (.literal (decimalToken kind (unquote token).toList) (some (.primitive keyword)))
        else none) := by
  rcases decimal with rfl | rfl
  all_goals
    refine ⟨_, rfl, ?_⟩
    simp only [convert, keyword?, token?, range?, Except.map]
    split <;> rfl

/-- Decimal numbers keep their value. For floats and doubles, and a token whose text is ASCII
without line feeds, the conversion ends, and gives a literal exactly if the text is a numeral; the
literal then has the type of the kind and is a floating literal of the kind that stands for the
number of the text.

The conversion takes a numeral apart as it is composed. Its parts are written again, but for
leading zeros, plus and letter, which do not count, and for a zero behind the point that is written
where doubles would read as whole numbers. -/
theorem decimal_literals_exact (kind : Kind) (decimal : kind = .float ∨ kind = .double)
    (token : String) (ascii : ∀ one ∈ (unquote token).toList, one.toNat < 128)
    (oneLine : '\n' ∉ (unquote token).toList) :
    ∃ answer : Option Expression, convert kind token = .ok answer ∧
      (answer.isSome = true ↔
        ∃ numeral : DecimalNumeral, numeral.SpelledAs (unquote token).toList) ∧
      ∀ literal ∈ answer, ∀ numeral : DecimalNumeral, numeral.SpelledAs (unquote token).toList →
        ∃ (keyword : String) (written : DecimalNumeral), keyword? kind = some keyword ∧
          literal = .literal (String.ofList written.text) (some (.primitive keyword)) ∧
          written.IsToken kind ∧ written.value = numeral.value := by
  obtain ⟨keyword, named, converted⟩ := convert_decimal decimal token
  refine ⟨_, converted, ?_, ?_⟩
  · rw [← isDecimal_iff ascii oneLine]
    split <;> simp_all
  · intro literal inside numeral spelled
    rw [if_pos ((isDecimal_iff ascii oneLine).mpr ⟨numeral, spelled⟩)] at inside
    obtain rfl := Option.some.inj inside
    refine ⟨keyword, numeral.token kind, named, ?_, spelled.isToken kind, numeral.value_token kind⟩
    rw [spelled.decimalToken oneLine kind]

/-- Seven with a point but no fraction, padded and signed, and a power of ten. -/
def paddedSeven : DecimalNumeral :=
  ⟨.plus, ['0', '0', '7'], some [], some ⟨'E', .minus, ['3']⟩, some 'D'⟩

/-- Seven with padding, a sign and a power of ten is written as a float without padding and sign,
and stands for seven thousandths. -/
theorem decimal_literals_exact_padded :
    (∀ one ∈ (unquote "\"+007.E-3D\"").toList, one.toNat < 128) ∧
      '\n' ∉ (unquote "\"+007.E-3D\"").toList ∧
      paddedSeven.SpelledAs (unquote "\"+007.E-3D\"").toList ∧
      convert .float "\"+007.E-3D\"" = .ok (some (.literal "7.E-3f" (some (.primitive "float")))) ∧
      paddedSeven.value = 7 / 1000 ∧
      ∃ written : DecimalNumeral, String.ofList written.text = "7.E-3f" ∧ written.IsToken .float ∧
        written.value = paddedSeven.value := by
  have ascii : ∀ one ∈ (unquote "\"+007.E-3D\"").toList, one.toNat < 128 := by
    have each :
        (unquote "\"+007.E-3D\"").toList.all (fun one => decide (one.toNat < 128)) = true := by
      decide
    simpa only [List.all_eq_true, decide_eq_true_eq] using each
  have oneLine : '\n' ∉ (unquote "\"+007.E-3D\"").toList := by decide
  have spelled : paddedSeven.SpelledAs (unquote "\"+007.E-3D\"").toList := by
    refine ⟨by decide, List.all_eq_true.mp rfl, List.all_eq_true.mp rfl, .inl (by decide), ?_, ?_⟩
    · rintro _ ⟨rfl⟩
      exact ⟨.inr rfl, by decide, List.all_eq_true.mp rfl⟩
    · rintro _ ⟨rfl⟩
      decide
  have converts : convert .float "\"+007.E-3D\"" =
      .ok (some (.literal "7.E-3f" (some (.primitive "float")))) := by rfl
  have value : paddedSeven.value = 7 / 1000 := by
    have digits :
        Nat.ofDigitChars 10 (paddedSeven.whole ++ paddedSeven.fraction.getD []) 0 = 7 := by
      decide
    have power : (paddedSeven.exponent.map Exponent.value).getD 0 -
        (paddedSeven.fraction.getD []).length = -3 := by decide
    rw [DecimalNumeral.value, digits, power]
    norm_num [paddedSeven, Sign.factor]
  obtain ⟨answer, returned, _, each⟩ := decimal_literals_exact .float (.inl rfl) _ ascii oneLine
  obtain rfl := Except.ok.inj (converts.symm.trans returned)
  obtain ⟨_, written, _, literal, isToken, same⟩ := each _ rfl paddedSeven spelled
  exact ⟨ascii, oneLine, spelled, converts, value, written, (Expression.literal.inj literal).1.symm,
    isToken, same⟩

end Literal

end TypedDefaults
