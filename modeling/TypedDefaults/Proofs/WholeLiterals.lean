import Mathlib.Algebra.Order.Ring.Int
import Mathlib.Data.List.TakeWhile
import Mathlib.Tactic.NormNum.Pow
import TypedDefaults.Literal.Conversion
import TypedDefaults.Proofs.JavaIdentifiers

/-!
# Whole numbers in literals

A whole number is read from an optional sign and digits of any script, and is
written again as an optional minus and plain digits. Both are numerals with a
value; what is proved is that converting a literal token keeps the value, and
refuses a text exactly if it is no numeral or its value does not fit the words of
the type. The ranges of the types are those of two's complement words, and not
the bounds that the conversion compares with.
-/

namespace TypedDefaults

open Java

namespace Literal

/-- What may stand in front of a number. -/
inductive Sign where
  | none
  | plus
  | minus
  deriving DecidableEq, Repr, Inhabited

namespace Sign

/-- The sign as it is written. -/
def text : Sign → List Char
  | none => []
  | plus => ['+']
  | minus => ['-']

/-- The sign as a factor. -/
def factor : Sign → Int
  | minus => -1
  | _ => 1

end Sign

/-- The number that digits of any script stand for. -/
def numberOf (digits : List Char) : Nat := Nat.ofDigitChars 10 (digits.map Text.asciiDigit) 0

/-- A whole number as it is written. -/
structure WholeNumeral where
  sign : Sign
  digits : List Char
  deriving DecidableEq, Repr, Inhabited

namespace WholeNumeral

/-- The characters of the numeral. -/
def text (numeral : WholeNumeral) : List Char := numeral.sign.text ++ numeral.digits

/-- The number that the numeral stands for. -/
def value (numeral : WholeNumeral) : Int := numeral.sign.factor * numberOf numeral.digits

/-- A text is a numeral if it is an optional sign in front of one digit or more, of any script. -/
structure SpelledAs (numeral : WholeNumeral) (text : List Char) : Prop where
  written : numeral.text = text
  nonempty : numeral.digits ≠ []
  digits : ∀ digit ∈ numeral.digits, Text.isDigit digit = true

end WholeNumeral

/-- Digits as a token may begin with them: ASCII digits, of which the first is a zero only if it
stands alone. -/
structure PlainDigits (digits : List Char) : Prop where
  nonempty : digits ≠ []
  ascii : ∀ digit ∈ digits, digit.isDigit = true
  unpadded : digits.head? = some '0' → digits = ['0']

/-- A numeral is the token of a whole number if it is an optional minus in front of plain digits. -/
structure WholeNumeral.IsToken (numeral : WholeNumeral) : Prop where
  sign : numeral.sign ≠ .plus
  digits : PlainDigits numeral.digits

/-- How many bits the words of a whole-number kind have. -/
def wordBits? : Kind → Option Nat
  | .byte => some 8
  | .short => some 16
  | .int => some 32
  | .long => some 64
  | _ => none

/-- The value is one of a two's complement word. -/
def FitsWord (bits : Nat) (value : Int) : Prop :=
  -2 ^ (bits - 1) ≤ value ∧ value < 2 ^ (bits - 1)

instance (bits : Nat) (value : Int) : Decidable (FitsWord bits value) := instDecidableAnd

/-- The letter behind a whole number of a kind: longs have one if they are no ints. -/
def longMark (kind : Kind) (value : Int) : List Char :=
  if kind = .long ∧ ¬FitsWord 32 value then ['L'] else []

/-- A digit of any script has the value of the ASCII digit in its place. -/
theorem toNat_asciiDigit {digit : Char} {value : Nat}
    (meaning : Text.digitValue? digit = some value) :
    (Text.asciiDigit digit).toNat = 0x30 + value := by
  have small := Text.digitValue?_lt meaning
  rw [Text.asciiDigit, meaning]
  exact Text.toNat_ofNat_of_valid (.inl (by omega))

/-- Digits are read one behind the other. -/
theorem digitsValue_digitValues (digits : List Char)
    (all : ∀ digit ∈ digits, Text.isDigit digit = true) :
    Binary64.digitsValue (digitValues digits) = numberOf digits := by
  have further : ∀ read : Nat,
      (digitValues digits).foldl (fun value digit => value * 10 + digit) read =
        Nat.ofDigitChars 10 (digits.map Text.asciiDigit) read := by
    induction digits with
    | nil => exact fun _ => rfl
    | cons digit rest inductionHypothesis =>
      intro read
      rw [List.forall_mem_cons] at all
      obtain ⟨value, meaning⟩ := Option.isSome_iff_exists.mp all.1
      have added : (Text.asciiDigit digit).toNat - '0'.toNat = value := by
        rw [toNat_asciiDigit meaning]
        exact Nat.add_sub_cancel_left 0x30 value
      rw [digitValues, List.filterMap_cons, meaning, List.map_cons, Nat.ofDigitChars_cons, added,
        Nat.mul_comm 10 read]
      exact inductionHypothesis all.2 (read * 10 + value)
  exact further 0

/-- No sign is a digit. -/
theorem not_isDigit_sign : Text.isDigit '+' = false ∧ Text.isDigit '-' = false := by decide

/-- Where no sign follows it, a sign is split off. -/
theorem splitSign_text (sign : Sign) (rest : List Char)
    (unsigned : rest.head? ≠ some '+' ∧ rest.head? ≠ some '-') :
    Numeral.splitSign (sign.text ++ rest) = (decide (sign = .minus), rest) := by
  cases sign with
  | none =>
    cases rest with
    | nil => rfl
    | cons first others =>
      simp only [List.head?_cons, ne_eq, Option.some.injEq] at unsigned
      simp [Sign.text, Numeral.splitSign, unsigned.1, unsigned.2]
  | plus => rfl
  | minus => rfl

/-- What splitting a sign off leaves was behind a sign. -/
theorem exists_sign (text : List Char) :
    ∃ sign : Sign, text = sign.text ++ (Numeral.splitSign text).2 := by
  unfold Numeral.splitSign
  split
  · exact ⟨.minus, rfl⟩
  · exact ⟨.plus, rfl⟩
  · exact ⟨.none, rfl⟩

/-- Digits are taken off up to the first other character. -/
theorem leadingDigits_append (digits rest : List Char)
    (all : ∀ digit ∈ digits, Text.isDigit digit = true)
    (ends : ∀ first ∈ rest.head?, Text.isDigit first = false) :
    leadingDigits (digits ++ rest) = (digits, rest) := by
  rw [leadingDigits, List.takeWhile_append_of_pos all, List.dropWhile_append_of_pos all]
  cases rest with
  | nil => simp
  | cons first others =>
    have other : Text.isDigit first = false := ends first rfl
    simp [other]

/-- A text without a line feed at its end is read as it is. -/
theorem withoutFinalLineFeed_self {text : List Char} (oneLine : '\n' ∉ text) :
    withoutFinalLineFeed text = text :=
  if_neg fun ends => oneLine (List.mem_of_getLast? ends)

/-- A numeral is read as its sign and its digits. -/
theorem WholeNumeral.SpelledAs.read {numeral : WholeNumeral} {text : List Char}
    (spelled : numeral.SpelledAs text) (oneLine : '\n' ∉ text) :
    wholeNumber? text = some (decide (numeral.sign = .minus), digitValues numeral.digits) := by
  obtain ⟨rfl, nonempty, digits⟩ := spelled
  obtain ⟨first, rest, same⟩ := List.exists_cons_of_ne_nil nonempty
  have firstDigit : Text.isDigit first = true := digits first (by simp [same])
  have unsigned : numeral.digits.head? ≠ some '+' ∧ numeral.digits.head? ≠ some '-' := by
    rw [same, List.head?_cons]
    constructor <;> rintro ⟨⟩ <;> simp [not_isDigit_sign] at firstDigit
  have taken := leadingDigits_append numeral.digits [] digits (by simp)
  rw [List.append_nil] at taken
  rw [wholeNumber?, withoutFinalLineFeed_self oneLine, text,
    splitSign_text numeral.sign numeral.digits unsigned]
  simp only [taken]

/-- A text that is read as a whole number is a numeral. -/
theorem exists_spelledAs {text : List Char} (oneLine : '\n' ∉ text)
    (read : (wholeNumber? text).isSome = true) :
    ∃ numeral : WholeNumeral, numeral.SpelledAs text := by
  obtain ⟨sign, whole⟩ := exists_sign text
  rw [wholeNumber?, withoutFinalLineFeed_self oneLine] at read
  dsimp only at read
  split at read
  · cases read
  · rename_i digits some taken
    obtain ⟨rfl, none⟩ := Prod.mk.inj taken
    have parts : (Numeral.splitSign text).2.takeWhile Text.isDigit =
        (Numeral.splitSign text).2 := by
      have split := List.takeWhile_append_dropWhile
        (p := Text.isDigit) (l := (Numeral.splitSign text).2)
      rwa [none, List.append_nil] at split
    refine ⟨⟨sign, (Numeral.splitSign text).2⟩, whole.symm, ?_, ?_⟩
    · intro empty
      refine some ?_
      rw [parts]
      exact empty
    · intro digit inside
      rw [← parts] at inside
      exact List.mem_takeWhile_imp inside
  · cases read

/-- The number that is read is the value of the numeral. -/
theorem WholeNumeral.SpelledAs.signed {numeral : WholeNumeral} {text : List Char}
    (spelled : numeral.SpelledAs text) :
    Numeral.signed (numeral.sign = .minus) (digitValues numeral.digits) = numeral.value := by
  rw [Numeral.signed, digitsValue_digitValues numeral.digits spelled.digits, value]
  cases numeral.sign <;> simp [Sign.factor]

/-- An ASCII digit is its own ASCII digit. -/
theorem asciiDigit_of_isDigit {digit : Char} (ascii : digit.isDigit = true) :
    Text.asciiDigit digit = digit := by
  have bounds : 0x30 ≤ digit.toNat ∧ digit.toNat ≤ 0x39 := Char.isDigit_iff_toNat.mp ascii
  have meaning : Text.digitValue? digit = some (digit.toNat - 0x30) := if_pos bounds
  rw [Text.asciiDigit, meaning]
  dsimp only
  rw [Nat.add_sub_cancel' bounds.1, Char.ofNat_toNat]

/-- ASCII digits stand for the number that core reads. -/
theorem numberOf_ascii {digits : List Char} (ascii : ∀ digit ∈ digits, digit.isDigit = true) :
    numberOf digits = Nat.ofDigitChars 10 digits 0 := by
  rw [numberOf, List.map_congr_left fun digit inside => asciiDigit_of_isDigit (ascii digit inside),
    List.map_id']

/-- Only the digits of zero begin with a zero. -/
theorem head?_toDigits (number : Nat) :
    (Nat.toDigits 10 number).head? = some '0' → number = 0 := by
  induction number using Nat.strong_induction_on with
  | _ number inductionHypothesis =>
    rw [Nat.toDigits_eq_if (by decide)]
    split
    · rw [List.head?_cons, Option.some.injEq, Nat.digitChar_eq_zero]
      exact id
    · rename_i large
      have shorter := inductionHypothesis (number / 10) (by omega)
      rw [List.head?_append_of_ne_nil _ Nat.toDigits_ne_nil]
      intro zero
      have := shorter zero
      omega

/-- The digits of a number are plain. -/
theorem plainDigits_toDigits (number : Nat) : PlainDigits (Nat.toDigits 10 number) where
  nonempty := Nat.toDigits_ne_nil
  ascii := fun _ inside => Nat.isDigit_of_mem_toDigits (by decide) (by decide) inside
  unpadded := by
    intro zero
    rw [head?_toDigits number zero]
    rfl

namespace WholeNumeral

/-- The numeral that an integer is written as. -/
def ofInt (value : Int) : WholeNumeral :=
  ⟨if value < 0 then .minus else .none, Nat.toDigits 10 value.natAbs⟩

/-- The numeral of an integer is what core writes. -/
theorem toList_toString (value : Int) : (toString value).toList = (ofInt value).text := by
  cases value with
  | ofNat number =>
    show (Nat.repr number).toList = _
    rw [Nat.toList_repr]
    rfl
  | negSucc number =>
    have below : Int.negSucc number < 0 := Int.negSucc_lt_zero number
    show ("-" ++ Nat.repr (number + 1)).toList = _
    rw [String.toList_append, Nat.toList_repr, ofInt, if_pos below]
    rfl

/-- The numeral of an integer is a token. -/
theorem isToken_ofInt (value : Int) : (ofInt value).IsToken where
  sign := by
    rw [ofInt]
    split <;> simp
  digits := plainDigits_toDigits value.natAbs

/-- The numeral of an integer stands for the integer. -/
theorem value_ofInt (value : Int) : (ofInt value).value = value := by
  have number : numberOf (Nat.toDigits 10 value.natAbs) = value.natAbs := by
    rw [numberOf_ascii (plainDigits_toDigits value.natAbs).ascii, Nat.ofDigitChars_ten_toDigits]
  rw [ofInt, WholeNumeral.value, number]
  split
  · show -1 * (value.natAbs : Int) = value
    omega
  · show 1 * (value.natAbs : Int) = value
    omega

end WholeNumeral

/-- The range of a whole-number kind is that of its words. -/
theorem range?_of_wordBits {kind : Kind} {bits : Nat} (width : wordBits? kind = some bits) :
    ∃ range, range? kind = some range ∧
      ∀ value, range.1 ≤ value ∧ value ≤ range.2 ↔ FitsWord bits value := by
  cases kind with
  | byte | short | int | long =>
    obtain rfl := Option.some.inj width
    refine ⟨_, rfl, fun value => ?_⟩
    norm_num [FitsWord]
    omega
  | _ => cases width

/-- Longs that fit the words of ints are those in the range of ints. -/
theorem fitsInt_iff (value : Int) : fitsInt value = true ↔ FitsWord 32 value := by
  rw [fitsInt, Bool.and_eq_true, decide_eq_true_eq, decide_eq_true_eq, FitsWord]
  norm_num
  omega

/-- What is made of a numeral for a kind, if its digits are not too many. -/
theorem wholeToken?_spelled {kind : Kind} {range : Int × Int} {text : List Char}
    {numeral : WholeNumeral} (spelled : numeral.SpelledAs text) (oneLine : '\n' ∉ text)
    {answer : Option String} (returned : wholeToken? kind range text = .ok answer) :
    answer = if range.1 ≤ numeral.value ∧ numeral.value ≤ range.2 then
      some (String.ofList ((WholeNumeral.ofInt numeral.value).text ++ longMark kind numeral.value))
      else none := by
  rw [wholeToken?, spelled.read oneLine] at returned
  dsimp only at returned
  rw [spelled.signed] at returned
  split at returned
  · cases returned
  · split at returned
    · rename_i inside
      obtain rfl := Except.ok.inj returned
      have mark : (kind = .long && !fitsInt numeral.value) = true ↔
          kind = .long ∧ ¬FitsWord 32 numeral.value := by
        rw [Bool.and_eq_true, decide_eq_true_eq, Bool.not_eq_true', ← Bool.not_eq_true, fitsInt_iff]
      have letters : (if (kind = .long && !fitsInt numeral.value) = true then "L" else "") =
          String.ofList (longMark kind numeral.value) := by
        rw [longMark]
        by_cases marked : kind = .long ∧ ¬FitsWord 32 numeral.value
        · rw [if_pos (mark.mpr marked), if_pos marked]
        · rw [if_neg (mark.not.mpr marked), if_neg marked]
      rw [if_pos inside, letters, String.ofList_append, ← WholeNumeral.toList_toString,
        String.ofList_toList]
    · rename_i outside
      obtain rfl := Except.ok.inj returned
      rw [if_neg outside]

/-- Only a text that is read as a whole number becomes a token. -/
theorem read_of_wholeToken? {kind : Kind} {range : Int × Int} {text : List Char} {source : String}
    (returned : wholeToken? kind range text = .ok (some source)) :
    (wholeNumber? text).isSome = true := by
  rw [wholeToken?] at returned
  cases read : wholeNumber? text with
  | none =>
    rw [read] at returned
    cases returned
  | some number => rfl

/-- A token is converted to a whole number by making a token of its text. -/
theorem convert_whole {kind : Kind} {range : Int × Int} (ranged : range? kind = some range)
    (token : String) :
    ∃ keyword, keyword? kind = some keyword ∧
      convert kind token = (wholeToken? kind range (unquote token).toList).map fun converted =>
        converted.map fun source => .literal source (some (.primitive keyword)) := by
  cases kind with
  | byte | short | int | long =>
    obtain rfl := Option.some.inj ranged
    exact ⟨_, rfl, rfl⟩
  | _ => cases ranged

/-- Whole numbers keep their value and their range. For a kind of whole numbers, and a token whose
text has no line feed, a conversion that ends gives a literal exactly if the text is a numeral and
its value is one of the words of the kind; the literal then has the type of the kind and is the
token of a numeral of the same value, with the mark of longs exactly if it is a long and no int.

A numeral is read as its sign and digits; the value is written by its digits. So the value that is
compared with the range is that of the text, and what is written has it again. -/
theorem whole_literals_exact (kind : Kind) (bits : Nat) (width : wordBits? kind = some bits)
    (token : String) (oneLine : '\n' ∉ (unquote token).toList) (answer : Option Expression)
    (returned : convert kind token = .ok answer) :
    (answer.isSome = true ↔ ∃ numeral : WholeNumeral,
      numeral.SpelledAs (unquote token).toList ∧ FitsWord bits numeral.value) ∧
    ∀ literal ∈ answer, ∀ numeral : WholeNumeral, numeral.SpelledAs (unquote token).toList →
      ∃ (keyword : String) (written : WholeNumeral), keyword? kind = some keyword ∧
        literal = .literal (String.ofList (written.text ++ longMark kind numeral.value))
          (some (.primitive keyword)) ∧
        written.IsToken ∧ written.value = numeral.value := by
  obtain ⟨range, ranged, within⟩ := range?_of_wordBits width
  obtain ⟨keyword, named, converted⟩ := convert_whole ranged token
  rw [converted] at returned
  cases whole : wholeToken? kind range (unquote token).toList with
  | error numeral =>
    rw [whole] at returned
    cases returned
  | ok source =>
    rw [whole] at returned
    obtain rfl := Except.ok.inj returned
    have exact (numeral : WholeNumeral) (spelled : numeral.SpelledAs (unquote token).toList) :=
      wholeToken?_spelled spelled oneLine whole
    refine ⟨⟨fun given => ?_, ?_⟩, ?_⟩
    · obtain ⟨literal, made⟩ := Option.isSome_iff_exists.mp given
      obtain ⟨written, rfl, _⟩ := Option.map_eq_some_iff.mp made
      obtain ⟨numeral, spelled⟩ := exists_spelledAs oneLine (read_of_wholeToken? whole)
      refine ⟨numeral, spelled, (within _).mp ?_⟩
      by_contra outside
      have refused := exact numeral spelled
      rw [if_neg outside] at refused
      cases refused
    · rintro ⟨numeral, spelled, fits⟩
      rw [exact numeral spelled, if_pos ((within _).mpr fits)]
      rfl
    · intro literal inside numeral spelled
      rw [exact numeral spelled] at inside
      split at inside
      · obtain rfl := Option.some.inj inside
        exact ⟨keyword, _, named, rfl, WholeNumeral.isToken_ofInt _, WholeNumeral.value_ofInt _⟩
      · cases inside

/-- The least long, in Arabic digits. -/
def leastLong : WholeNumeral := ⟨.minus, "٩٢٢٣٣٧٢٠٣٦٨٥٤٧٧٥٨٠٨".toList⟩

/-- The least long in Arabic digits is written in plain ones, with the mark of longs. -/
theorem whole_literals_exact_arabic :
    leastLong.SpelledAs (unquote "\"-٩٢٢٣٣٧٢٠٣٦٨٥٤٧٧٥٨٠٨\"").toList ∧
      '\n' ∉ (unquote "\"-٩٢٢٣٣٧٢٠٣٦٨٥٤٧٧٥٨٠٨\"").toList ∧
      leastLong.value = -9223372036854775808 ∧
      convert .long "\"-٩٢٢٣٣٧٢٠٣٦٨٥٤٧٧٥٨٠٨\"" =
        .ok (some (.literal "-9223372036854775808L" (some (.primitive "long")))) ∧
      ∃ written : WholeNumeral, written.IsToken ∧ written.value = leastLong.value ∧
        "-9223372036854775808L" =
          String.ofList (written.text ++ longMark .long leastLong.value) := by
  have oneLine : '\n' ∉ (unquote "\"-٩٢٢٣٣٧٢٠٣٦٨٥٤٧٧٥٨٠٨\"").toList := by decide
  have spelled : leastLong.SpelledAs (unquote "\"-٩٢٢٣٣٧٢٠٣٦٨٥٤٧٧٥٨٠٨\"").toList :=
    ⟨by decide, by decide, List.all_eq_true.mp rfl⟩
  have converts : convert .long "\"-٩٢٢٣٣٧٢٠٣٦٨٥٤٧٧٥٨٠٨\"" =
      .ok (some (.literal "-9223372036854775808L" (some (.primitive "long")))) := by rfl
  obtain ⟨_, each⟩ := whole_literals_exact .long 64 rfl _ oneLine _ converts
  obtain ⟨_, written, _, literal, isToken, value⟩ := each _ rfl leastLong spelled
  exact ⟨spelled, oneLine, by decide, converts, written, isToken, value,
    (Expression.literal.inj literal).1⟩

end Literal

end TypedDefaults
