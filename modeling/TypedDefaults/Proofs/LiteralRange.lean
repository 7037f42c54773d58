import TypedDefaults.Proofs.BinaryRounding
import TypedDefaults.Proofs.DecimalLiterals

/-!
# The range of decimal literals

A compiler takes a floating literal if its number holds in the format of the literal,
which is that of 32 bits with the letter of floats, and that of 64 bits otherwise: the
number must not be rounded to infinity, and to zero only if it is zero. The conversion
looks at the form of a number alone, so that a literal is in range exactly if its text
is. Two more forms are converted though no compiler takes them: digits of other scripts
stay in the literal, and so does a letter in front of a line feed, behind which floats
get another letter, and whole doubles a fraction.
-/

namespace TypedDefaults

open Java

namespace Literal

/-- The format of the numbers of a kind. -/
def formatOf (kind : Kind) : BinaryFormat := if kind = .float then .single else .double

/-- The format in which a numeral is read, by its letter. -/
def DecimalNumeral.format (numeral : DecimalNumeral) : BinaryFormat :=
  if numeral.suffix = some 'f' ∨ numeral.suffix = some 'F' then .single else .double

/-- A numeral is accepted as a floating literal of a kind. It needs a point, an exponent or a
letter, floats take no other format than theirs, and its number must hold in the format. -/
structure DecimalNumeral.Accepted (numeral : DecimalNumeral) (kind : Kind) : Prop where
  spelled : numeral.SpelledAs numeral.text
  floating : numeral.fraction.isSome ∨ numeral.exponent.isSome ∨ numeral.suffix.isSome
  assignable : kind = .float → numeral.format = .single
  holds : numeral.format.Holds numeral.value

/-- The text of a literal compiles if it is that of an accepted numeral. -/
def Compiles (kind : Kind) (source : String) : Prop :=
  ∃ written : DecimalNumeral, String.ofList written.text = source ∧ written.Accepted kind

/-- The numeral of a text is in range for the literal that is made of the text. The number must be
in the range of the kind. In a text that goes on with a line feed, the letter of a numeral is kept:
the number must then be in the range of the letter, and the kind be double, and the numeral have a
point or an exponent. -/
inductive InRangeWithin (kind : Kind) (text : List Char) (numeral : DecimalNumeral) : Prop where
  | rewritten (removed : numeral.suffix = none ∨ text.getLast? ≠ some '\n')
      (inRange : (formatOf kind).InRange numeral.value)
  | lettered (kept : text.getLast? = some '\n') (double : kind = .double)
      (floating : numeral.fraction.isSome ∨ numeral.exponent.isSome)
      (inRange : numeral.format.InRange numeral.value)

/-- The text of a numeral compiles if the numeral is accepted, since it has no other. -/
theorem DecimalNumeral.SpelledAs.compiles_iff {written : DecimalNumeral}
    (spelled : written.SpelledAs written.text) (kind : Kind) :
    Compiles kind (String.ofList written.text) ↔ written.Accepted kind := by
  constructor
  · rintro ⟨other, same, accepted⟩
    have alike := accepted.spelled
    rw [String.ofList_injective same] at alike
    rwa [← alike.unique spelled]
  · exact fun accepted => ⟨written, rfl, accepted⟩

/-- A numeral ends in its letter, where it has one. -/
theorem DecimalNumeral.SpelledAs.append_letter {numeral : DecimalNumeral} {text : List Char}
    (spelled : numeral.SpelledAs text) :
    numeral.sign.text ++ (numeral.whole ++ (fractionText numeral.fraction ++
      exponentText numeral.exponent)) ++ numeral.suffix.toList = text := by
  rw [← spelled.written, DecimalNumeral.text]
  simp only [List.append_assoc]

/-- A numeral is ASCII. -/
theorem DecimalNumeral.SpelledAs.ascii {numeral : DecimalNumeral} {text : List Char}
    (spelled : numeral.SpelledAs text) : ∀ one ∈ text, one.toNat < 128 := by
  have marks : ∀ mark ∈ ['+', '-', '.', 'e', 'E'], mark.toNat < 128 := by
    simp
  have letters : ∀ letter ∈ ['f', 'F', 'd', 'D'], letter.toNat < 128 := by
    simp
  intro one inside
  rw [← spelled.append_letter] at inside
  rcases List.mem_append.mp inside with inside | inside
  · rcases spelled.isDigit_or_mark numeral.sign one inside with digit | mark
    · exact (Char.isDigit_iff_toNat.mp digit).2.trans_lt (by decide)
    · exact marks one mark
  · exact letters one (spelled.ending.suffix one (Option.mem_toList.mp inside))

/-- Nothing stands behind a letter that ends a numeral. -/
theorem DecimalNumeral.SpelledAs.letter_last {numeral : DecimalNumeral} {front behind : List Char}
    {letter : Char} (spelled : numeral.SpelledAs (front ++ letter :: behind))
    (isLetter : isSuffix letter = true) : behind = [] := by
  have parts := spelled.append_letter
  have absent := fun inside =>
    Bool.eq_false_iff.mp (spelled.not_isSuffix numeral.sign letter inside)
  rcases List.eq_nil_or_concat behind with rfl | ⟨others, last, rfl⟩
  · rfl
  · refine absurd isLetter (absent ?_)
    cases suffix : numeral.suffix with
    | none =>
      rw [suffix, Option.toList_none, List.append_nil] at parts
      rw [parts]
      exact List.mem_append_right front List.mem_cons_self
    | some own =>
      rw [suffix, Option.toList_some, List.concat_eq_append, ← List.cons_append,
        ← List.append_assoc front] at parts
      rw [(List.append_inj' parts rfl).1]
      exact List.mem_append_right front List.mem_cons_self

/-- What is not to be dropped stays. -/
theorem mem_dropWhile_of_neg {drops : Char → Bool} {one : Char} {text : List Char}
    (inside : one ∈ text) (other : drops one = false) : one ∈ text.dropWhile drops := by
  rw [← List.takeWhile_append_dropWhile (p := drops) (l := text), List.mem_append] at inside
  refine inside.resolve_left fun taken => ?_
  rw [List.mem_takeWhile_imp taken] at other
  cases other

/-- Nothing but letters is taken off the end. -/
theorem mem_withoutSuffix {one : Char} {text : List Char} (inside : one ∈ text)
    (other : isSuffix one = false) : one ∈ withoutSuffix text := by
  rw [withoutSuffix, List.mem_reverse]
  exact mem_dropWhile_of_neg (List.mem_reverse.mpr inside) other

/-- What is left of a text without letters at its end is a part of the text. -/
theorem withoutSuffix_sublist (text : List Char) : (withoutSuffix text).Sublist text := by
  rw [withoutSuffix, ← List.reverse_sublist, List.reverse_reverse]
  exact List.dropWhile_sublist _

/-- A minus and what follows it are the text. -/
theorem minusOf_append (text : List Char) : (minusOf text).1 ++ (minusOf text).2 = text := by
  rw [minusOf.eq_def]
  split <;> rfl

/-- Nothing but zeros is taken off the front. -/
theorem mem_withoutLeadingZeros {one : Char} {digits : List Char} (inside : one ∈ digits)
    (other : one ≠ '0') : one ∈ withoutLeadingZeros digits := by
  have kept : one ∈ digits.dropWhile (· = '0') :=
    mem_dropWhile_of_neg inside (decide_eq_false other)
  rw [withoutLeadingZeros, if_neg (by simpa using List.ne_nil_of_mem inside)]
  dsimp only
  rw [if_neg (by simpa using List.ne_nil_of_mem kept)]
  exact kept

/-- In a part of a text with no line feed but at its end, only that ends the line. -/
theorem mem_line {one : Char} {part body lost : List Char} (within : part.Sublist (body ++ lost))
    (oneLine : '\n' ∉ body) (ends : ∀ other ∈ lost, other = '\n') (inside : one ∈ part)
    (visible : one ≠ '\n') : one ∈ part.takeWhile (· ≠ '\n') := by
  obtain ⟨front, back, rfl, ofBody, ofLost⟩ := List.sublist_append_iff.mp within
  have line : ∀ other ∈ front, decide (other ≠ '\n') = true := by
    rintro other inFront
    rw [decide_eq_true_eq]
    rintro rfl
    exact oneLine (ofBody.subset inFront)
  rw [List.takeWhile_append_of_pos line]
  rcases List.mem_append.mp inside with inFront | inBack
  · exact List.mem_append_left _ inFront
  · exact absurd (ends one (ofLost.subset inBack)) visible

/-- A character beyond ASCII is none of ASCII. -/
theorem ne_of_foreign {one mark : Char} (foreign : 128 ≤ one.toNat) (ascii : mark.toNat < 128) :
    one ≠ mark := by
  rintro rfl
  omega

/-- A character beyond ASCII is not taken off either end of a text. -/
theorem mem_left_of_foreign {one : Char} {text : List Char} (inside : one ∈ text)
    (foreign : 128 ≤ one.toNat) : one ∈ withoutSuffix (text.dropWhile (· = '+')) := by
  have noPlus : decide (one = '+') = false := decide_eq_false (ne_of_foreign foreign (by decide))
  refine mem_withoutSuffix (mem_dropWhile_of_neg inside noPlus) ?_
  simp only [isSuffix, Bool.or_eq_false_iff, decide_eq_false_iff_not]
  refine ⟨⟨⟨?_, ?_⟩, ?_⟩, ?_⟩ <;> exact ne_of_foreign foreign (by decide)

/-- A character beyond ASCII stays in the token of its text. -/
theorem mem_decimalToken {one : Char} {body lost : List Char} (kind : Kind)
    (oneLine : '\n' ∉ body) (ends : ∀ other ∈ lost, other = '\n') (inside : one ∈ body)
    (foreign : 128 ≤ one.toNat) : one ∈ (decimalToken kind (body ++ lost)).toList := by
  have left := mem_left_of_foreign (List.mem_append_left lost inside) foreign
  have within : (withoutSuffix ((body ++ lost).dropWhile (· = '+'))).Sublist (body ++ lost) :=
    (withoutSuffix_sublist _).trans (List.dropWhile_sublist _)
  rw [decimalToken_eq, String.toList_ofList]
  generalize withoutSuffix ((body ++ lost).dropWhile (· = '+')) = signed at left within ⊢
  rw [← minusOf_append signed] at within
  rw [← minusOf_append signed, List.mem_append,
    ← List.takeWhile_append_dropWhile (p := Text.isDigit) (l := (minusOf signed).2),
    List.mem_append] at left
  simp only [List.mem_append]
  rcases left with minus | digit | behind
  · exact .inl (.inl (.inl minus))
  · exact .inl (.inl (.inr (mem_withoutLeadingZeros digit (ne_of_foreign foreign (by decide)))))
  · have part := (List.dropWhile_sublist Text.isDigit).trans
      ((List.sublist_append_right (minusOf signed).1 (minusOf signed).2).trans within)
    exact .inl (.inr (mem_line part oneLine ends behind (ne_of_foreign foreign (by decide))))

/-- The text is the line and the line feed at its end, where there is one. -/
theorem withoutFinalLineFeed_append (text : List Char) :
    withoutFinalLineFeed text ++ (if text.getLast? = some '\n' then ['\n'] else []) = text := by
  rw [withoutFinalLineFeed]
  split
  · rename_i fed
    exact List.dropLast_append_getLast? _ fed
  · exact List.append_nil text

/-- Digits are no line feeds. -/
theorem oneLine_of_leadingDigits {text : List Char} (oneLine : '\n' ∉ (leadingDigits text).2) :
    '\n' ∉ text := by
  have taken : leadingDigits text = ((leadingDigits text).1, (leadingDigits text).2) := rfl
  obtain ⟨parts, digits⟩ := digits_of_leadingDigits taken
  rw [parts, List.mem_append, not_or]
  exact ⟨fun inside => absurd (digits _ inside) (by decide), oneLine⟩

/-- Signs are no line feeds. -/
theorem oneLine_of_splitSign {text : List Char} (oneLine : '\n' ∉ (Numeral.splitSign text).2) :
    '\n' ∉ text := by
  obtain ⟨sign, parts⟩ := exists_sign text
  rw [parts, List.mem_append, not_or]
  exact ⟨by cases sign <;> simp [Sign.text], oneLine⟩

/-- Points and the digits behind them are no line feeds. -/
theorem oneLine_of_behindPoint {text : List Char} (oneLine : '\n' ∉ (behindPoint text).2) :
    '\n' ∉ text := by
  rw [behindPoint.eq_def] at oneLine
  split at oneLine
  · rw [List.mem_cons, not_or]
    exact ⟨by decide, oneLine_of_leadingDigits oneLine⟩
  · exact oneLine

/-- Exponents have no line feeds. -/
theorem oneLine_of_afterExponent? {text rest : List Char} (passed : afterExponent? text = some rest)
    (oneLine : '\n' ∉ rest) : '\n' ∉ text := by
  cases text with
  | nil => simp
  | cons mark behind =>
    rw [afterExponent?] at passed
    split at passed
    · rename_i marked
      split at passed
      · cases passed
      · rename_i taken
        obtain rfl := Option.some.inj passed
        rw [List.mem_cons, not_or]
        refine ⟨?_, oneLine_of_splitSign (oneLine_of_leadingDigits (by rwa [taken]))⟩
        rintro rfl
        cases marked
    · rwa [Option.some.inj passed]

/-- A decimal number is one line. -/
theorem oneLine_of_isDecimal {text : List Char} (accepted : isDecimal text = true) :
    '\n' ∉ withoutFinalLineFeed text := by
  rw [isDecimal, isUnsignedDecimal_eq] at accepted
  split at accepted
  · cases accepted
  · obtain ⟨suffix, passed, letters⟩ := (isLetterLeft_iff _).mp accepted
    refine oneLine_of_splitSign (oneLine_of_leadingDigits (oneLine_of_behindPoint
      (oneLine_of_afterExponent? passed fun inside => ?_)))
    exact absurd (letters _ (Option.mem_toList.mp inside)) (by decide)

/-- A decimal number in ASCII is a numeral. -/
theorem exists_numeral {text : List Char} (accepted : isDecimal text = true)
    (ascii : ∀ one ∈ withoutFinalLineFeed text, one.toNat < 128) :
    ∃ numeral : DecimalNumeral, numeral.SpelledAs (withoutFinalLineFeed text) := by
  have oneLine := oneLine_of_isDecimal accepted
  rw [isDecimal, ← withoutFinalLineFeed_self oneLine] at accepted
  exact (isDecimal_iff ascii oneLine).mp accepted

/-- Only ASCII text is made into a literal that compiles. -/
theorem ascii_of_compiles {kind : Kind} {text : List Char} (accepted : isDecimal text = true)
    (compiles : Compiles kind (decimalToken kind text)) :
    ∀ one ∈ withoutFinalLineFeed text, one.toNat < 128 := by
  obtain ⟨written, same, isAccepted⟩ := compiles
  intro one inside
  by_contra foreign
  have ends : ∀ other ∈ if text.getLast? = some '\n' then ['\n'] else [], other = '\n' := by
    split <;> simp
  have stays := mem_decimalToken kind (oneLine_of_isDecimal accepted) ends inside
    (not_lt.mp foreign)
  rw [withoutFinalLineFeed_append, ← same, String.toList_ofList] at stays
  exact foreign (isAccepted.spelled.ascii one stays)

/-- The token of a numeral is in the format of its kind. -/
theorem DecimalNumeral.format_token {kind : Kind} (numeral : DecimalNumeral) :
    (numeral.token kind).format = formatOf kind := by
  rw [format, token, formatOf]
  by_cases float : kind = .float <;> simp [float]

/-- The token of a numeral compiles exactly if its number is in range. -/
theorem DecimalNumeral.SpelledAs.compiles_token {numeral : DecimalNumeral} {text : List Char}
    (spelled : numeral.SpelledAs text) (kind : Kind) :
    Compiles kind (String.ofList (numeral.token kind).text) ↔
      (formatOf kind).InRange numeral.value := by
  have isToken := spelled.isToken kind
  rw [isToken.spelled.compiles_iff, ← BinaryFormat.holds_iff]
  constructor
  · rintro ⟨_, _, _, holds⟩
    rwa [numeral.format_token, numeral.value_token] at holds
  · refine fun holds => ⟨isToken.spelled, isToken.floating, ?_, ?_⟩
    · rintro rfl
      exact numeral.format_token
    · rwa [numeral.format_token, numeral.value_token]

/-- A numeral without plus and leading zeros that has a point or an exponent compiles where no float
is asked for, if the number is in the range of its letter. -/
theorem DecimalNumeral.SpelledAs.compiles_plain {numeral : DecimalNumeral} {text : List Char}
    (spelled : numeral.SpelledAs text)
    (floating : numeral.fraction.isSome ∨ numeral.exponent.isSome) {kind : Kind}
    (noFloat : kind ≠ .float) :
    Compiles kind (String.ofList numeral.plain.text) ↔
      numeral.format.InRange numeral.value := by
  rw [spelled.spelled_plain.compiles_iff, ← BinaryFormat.holds_iff]
  constructor
  · rintro ⟨_, _, _, holds⟩
    rwa [numeral.value_plain] at holds
  · refine fun holds => ⟨spelled.spelled_plain, floating.imp_right .inl, (absurd · noFloat), ?_⟩
    rwa [numeral.value_plain]

/-- In front of a line feed the letter of a numeral stays. -/
theorem DecimalNumeral.SpelledAs.decimalToken_lineFeed {numeral : DecimalNumeral}
    {body : List Char} (spelled : numeral.SpelledAs body) (oneLine : '\n' ∉ body) (kind : Kind) :
    Literal.decimalToken kind (body ++ ['\n']) =
      let rest := fractionText numeral.fraction ++ exponentText numeral.exponent
      String.ofList ((if numeral.sign = .minus then Sign.minus else .none).text ++
        withoutLeadingZeros numeral.whole ++ (rest ++ numeral.suffix.toList) ++
          tailOf kind rest) := by
  have stays (text : List Char) : withoutSuffix (text ++ ['\n']) = text ++ ['\n'] := by
    rw [withoutSuffix, List.reverse_append, List.reverse_singleton, List.singleton_append,
      List.dropWhile_cons_of_neg (by decide), List.reverse_cons, List.reverse_reverse]
  rw [spelled.decimalToken_of_left oneLine kind numeral.suffix ['\n'] (by simp) (by simp)]
  · dsimp only
    rw [← List.append_assoc (fractionText _), tailOf_letter kind _ spelled.ending.suffix]
  · rw [spelled.dropWhile_plus, stays]
    simp only [List.append_assoc]

/-- A line feed behind a numeral without a letter does not matter: its token compiles exactly if its
number is in range. -/
theorem DecimalNumeral.SpelledAs.compiles_unlettered {numeral : DecimalNumeral} {body : List Char}
    (spelled : numeral.SpelledAs body) (oneLine : '\n' ∉ body) (suffix : numeral.suffix = none)
    (kind : Kind) :
    Compiles kind (Literal.decimalToken kind (body ++ ['\n'])) ↔
      (formatOf kind).InRange numeral.value := by
  have made := spelled.decimalToken_lineFeed oneLine kind
  dsimp only at made
  rw [suffix, Option.toList_none, List.append_nil, ← spelled.text_token] at made
  rw [made, spelled.compiles_token]

/-- Behind a letter, the letter of floats or the fraction of whole doubles makes no numeral, so that
only a double with point or exponent compiles, if the number is in the range of the letter. -/
theorem DecimalNumeral.SpelledAs.compiles_lettered {numeral : DecimalNumeral} {body : List Char}
    (spelled : numeral.SpelledAs body) (oneLine : '\n' ∉ body) {letter : Char}
    (suffix : numeral.suffix = some letter) (kind : Kind) :
    Compiles kind (Literal.decimalToken kind (body ++ ['\n'])) ↔
      kind ≠ .float ∧ (numeral.fraction.isSome ∨ numeral.exponent.isSome) ∧
        numeral.format.InRange numeral.value := by
  have isLetter : isSuffix letter = true := by
    simpa [isSuffix, or_assoc] using spelled.ending.suffix letter suffix
  have made := spelled.decimalToken_lineFeed oneLine kind
  dsimp only at made
  have refused : tailOf kind (fractionText numeral.fraction ++
      exponentText numeral.exponent) ≠ [] →
        ¬Compiles kind (Literal.decimalToken kind (body ++ ['\n'])) := by
    rintro more ⟨written, same, accepted⟩
    rw [made, suffix, Option.toList_some] at same
    have ends := accepted.spelled
    rw [String.ofList_injective same, List.append_assoc, List.append_assoc _ [letter],
      ← List.append_assoc, List.singleton_append] at ends
    exact more (ends.letter_last isLetter)
  rw [tailOf_eq kind _ spelled.ending.exponent] at made refused
  by_cases float : kind = .float
  · exact iff_of_false (refused (by simp [float])) fun inRange => inRange.1 float
  · by_cases bare : numeral.fraction = none ∧ numeral.exponent = none
    · exact iff_of_false (refused (by simp [float, bare])) (by simp [bare])
    · have floating : numeral.fraction.isSome ∨ numeral.exponent.isSome := by
        rwa [not_and_or, ← ne_eq, ← ne_eq, Option.ne_none_iff_isSome, Option.ne_none_iff_isSome]
          at bare
      have plain : Literal.decimalToken kind (body ++ ['\n']) =
          String.ofList numeral.plain.text := by
        rw [made, if_neg float, if_neg bare, List.append_nil, List.append_assoc, List.append_assoc]
        rfl
      rw [plain, spelled.compiles_plain floating float]
      exact ⟨fun inRange => ⟨float, floating, inRange⟩, fun inRange => inRange.2.2⟩

/-- The literal of a numeral compiles exactly if the numeral is in range within its text. -/
theorem DecimalNumeral.SpelledAs.compiles_decimalToken {numeral : DecimalNumeral} {text : List Char}
    (spelled : numeral.SpelledAs (withoutFinalLineFeed text))
    (oneLine : '\n' ∉ withoutFinalLineFeed text) {kind : Kind}
    (decimal : kind = .float ∨ kind = .double) :
    Compiles kind (Literal.decimalToken kind text) ↔ InRangeWithin kind text numeral := by
  have whole := withoutFinalLineFeed_append text
  by_cases fed : text.getLast? = some '\n'
  · rw [if_pos fed] at whole
    cases suffix : numeral.suffix with
    | none =>
      have unlettered := spelled.compiles_unlettered oneLine suffix kind
      rw [whole] at unlettered
      rw [unlettered]
      constructor
      · exact .rewritten (.inl suffix)
      · rintro (⟨_, inRange⟩ | ⟨_, rfl, _, inRange⟩)
        · exact inRange
        · rwa [DecimalNumeral.format, suffix] at inRange
    | some letter =>
      have lettered := spelled.compiles_lettered oneLine suffix kind
      rw [whole] at lettered
      rw [lettered]
      constructor
      · rintro ⟨noFloat, floating, inRange⟩
        exact .lettered fed (decimal.resolve_left noFloat) floating inRange
      · rintro (⟨removed, _⟩ | ⟨_, rfl, floating, inRange⟩)
        · exact absurd fed (removed.resolve_left (by simp [suffix]))
        · exact ⟨by decide, floating, inRange⟩
  · rw [if_neg fed, List.append_nil] at whole
    rw [whole] at spelled oneLine
    rw [spelled.decimalToken oneLine, spelled.compiles_token]
    constructor
    · exact .rewritten (.inr fed)
    · rintro (⟨_, inRange⟩ | ⟨kept, _⟩)
      · exact inRange
      · exact absurd kept fed

/-- Which decimal literals are in range. Whenever a token is converted to a float or double, the
literal compiles exactly if the text, except for a line feed at its end, is a numeral that is in
range within the text.

What compiles is decided by rounding, and what is in range by two bounds of the number. The
conversion compares with neither: a number out of range is converted like any other, and its literal
does not compile. -/
theorem decimal_literals_in_range (kind : Kind) (decimal : kind = .float ∨ kind = .double)
    (token source : String) (type : Option JavaType)
    (converted : convert kind token = .ok (some (.literal source type))) :
    Compiles kind source ↔
      ∃ numeral : DecimalNumeral,
        numeral.SpelledAs (withoutFinalLineFeed (unquote token).toList) ∧
          InRangeWithin kind (unquote token).toList numeral := by
  obtain ⟨keyword, _, converts⟩ := convert_decimal decimal token
  rw [converts, Except.ok.injEq] at converted
  split at converted
  · rename_i accepted
    obtain ⟨rfl, _⟩ := Expression.literal.inj (Option.some.inj converted)
    have oneLine := oneLine_of_isDecimal accepted
    constructor
    · intro compiles
      obtain ⟨numeral, spelled⟩ := exists_numeral accepted (ascii_of_compiles accepted compiles)
      exact ⟨numeral, spelled, (spelled.compiles_decimalToken oneLine decimal).mp compiles⟩
    · rintro ⟨numeral, spelled, inRange⟩
      exact (spelled.compiles_decimalToken oneLine decimal).mpr inRange
  · cases converted

/-- A little more than half of the finest unit of doubles. -/
def halfUnit : DecimalNumeral :=
  ⟨.none, ['2'], some ['5'], some ⟨'e', .minus, ['3', '2', '4']⟩, none⟩

/-- The numeral stands for 25 times ten to the power of -325. -/
theorem value_halfUnit : halfUnit.value = 25 * 10 ^ (-325 : Int) := by
  have digits : Nat.ofDigitChars 10 (halfUnit.whole ++ halfUnit.fraction.getD []) 0 = 25 := by
    decide
  have power : (halfUnit.exponent.map Exponent.value).getD 0 -
      (halfUnit.fraction.getD []).length = -325 := by
    decide
  rw [DecimalNumeral.value, digits, power]
  norm_num [halfUnit, Sign.factor]

/-- A little more than half of the finest unit is in the range of doubles. -/
theorem inRange_halfUnit : BinaryFormat.double.InRange halfUnit.value := by
  have value := value_halfUnit
  have positive : 0 < halfUnit.value := by
    rw [value]
    positivity
  refine .inr ⟨?_, ?_⟩ <;> rw [abs_of_pos positive, value]
  · have powers : 10 ^ 325 < 25 * 2 ^ 1075 := by decide +kernel
    have unit : BinaryFormat.double.leastExponent - 1 = -1075 := by decide
    rw [unit, zpow_neg, zpow_neg, ← div_eq_mul_inv, inv_eq_one_div,
      div_lt_div_iff₀ (by positivity) (by positivity), one_mul]
    exact_mod_cast powers
  · have small : (10 : ℚ) ^ (-325 : Int) ≤ 1 := zpow_le_one_of_nonpos₀ (by norm_num) (by decide)
    have large : (1 : ℚ) ≤ 2 ^ (BinaryFormat.double.greatestExponent - 1) :=
      one_le_zpow₀ (by norm_num) (by decide)
    have several : (25 : ℚ) < 2 * 2 ^ BinaryFormat.double.precision - 1 := by
      norm_num [BinaryFormat.double]
    rw [BinaryFormat.overflowBound_eq]
    calc (25 : ℚ) * 10 ^ (-325 : Int) ≤ 25 := mul_le_of_le_one_right (by norm_num) small
      _ < 2 * 2 ^ BinaryFormat.double.precision - 1 := several
      _ ≤ _ := le_mul_of_one_le_right (several.le.trans' (by norm_num)) large

/-- More than half of the finest unit compiles as a double, though the number is less than any
double but zero. -/
theorem decimal_literals_in_range_halfUnit :
    convert .double "\"2.5e-324\"" = .ok (some (.literal "2.5e-324" (some (.primitive "double")))) ∧
      halfUnit.SpelledAs "2.5e-324".toList ∧ Compiles .double "2.5e-324" := by
  have converts : convert .double "\"2.5e-324\"" =
      .ok (some (.literal "2.5e-324" (some (.primitive "double")))) := by rfl
  have spelled : halfUnit.SpelledAs "2.5e-324".toList := by
    refine ⟨by decide, List.all_eq_true.mp rfl, List.all_eq_true.mp rfl, .inl (by decide), ?_, ?_⟩
    · rintro _ ⟨rfl⟩
      exact ⟨.inl rfl, by decide, List.all_eq_true.mp rfl⟩
    · simp [halfUnit]
  refine ⟨converts, spelled, ?_⟩
  rw [decimal_literals_in_range .double (.inr rfl) _ _ _ converts]
  exact ⟨halfUnit, spelled, .rewritten (.inl rfl) inRange_halfUnit⟩

/-- A power of ten beyond all doubles. -/
def hugePower : DecimalNumeral :=
  ⟨.none, ['1'], none, some ⟨'e', .none, ['4', '0', '0']⟩, none⟩

/-- The power overflows. -/
theorem overflows_hugePower : BinaryFormat.double.Overflows hugePower.value := by
  have value : hugePower.value = 10 ^ 400 := by
    have digits : Nat.ofDigitChars 10 (hugePower.whole ++ hugePower.fraction.getD []) 0 = 1 := by
      decide
    have power : (hugePower.exponent.map Exponent.value).getD 0 -
        (hugePower.fraction.getD []).length = (400 : Nat) := by
      decide
    rw [DecimalNumeral.value, digits, power, zpow_natCast]
    simp [hugePower, Sign.factor]
  have powers : 2 ^ 1024 ≤ 10 ^ 400 := by decide +kernel
  have bound : BinaryFormat.double.overflowBound ≤ 2 ^ 1024 := by
    rw [BinaryFormat.overflowBound, ← zpow_natCast]
    exact sub_le_self _ (by positivity)
  rw [BinaryFormat.overflows_iff, value, abs_of_nonneg (by positivity)]
  exact bound.trans (by exact_mod_cast powers)

/-- A power of ten beyond all doubles is converted to a double all the same, which does not compile.
-/
theorem overflowing_double_converted :
    convert .double "\"1e400\"" = .ok (some (.literal "1e400" (some (.primitive "double")))) ∧
      String.ofList hugePower.text = "1e400" ∧ BinaryFormat.double.Overflows hugePower.value ∧
        ¬Compiles .double "1e400" := by
  have spelled : hugePower.SpelledAs hugePower.text := by
    refine ⟨rfl, List.all_eq_true.mp rfl, List.all_eq_true.mp rfl, .inl (by decide), ?_, ?_⟩
    · rintro _ ⟨rfl⟩
      exact ⟨.inl rfl, by decide, List.all_eq_true.mp rfl⟩
    · simp [hugePower]
  refine ⟨by rfl, by rfl, overflows_hugePower, fun compiles => ?_⟩
  have accepted := (spelled.compiles_iff .double).mp compiles
  exact accepted.holds.finite overflows_hugePower

end Literal

end TypedDefaults
