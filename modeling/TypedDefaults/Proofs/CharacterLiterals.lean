import TypedDefaults.Literal.Conversion
import TypedDefaults.Proofs.JavaIdentifiers
import TypedDefaults.Proofs.StringTokens

/-!
# Characters and truth values in place

A string literal that is converted in place is not evaluated: the conversion
cuts its first character off the text between the quotes. What it cuts is right
for a character that is written as itself, for an escape of one letter and for
an octal escape of one digit. It takes a fixed number of characters for every
Unicode escape and two for any other escape, so it cuts escapes that are longer,
leaves apostrophes and backslashes unescaped that are written as Unicode
escapes, and takes both surrogates of a character beyond the basic plane. A
truth value is compared as it is written, so no word with an escape is true.
-/

namespace TypedDefaults

open Java Literal

namespace StringToken

open Json.Token (hexValue?)

/-- The code unit of an apostrophe. -/
def apostrophe : CodeUnit := 0x27

/-- The value of what stands between the apostrophes of a character literal: a code unit that is no
apostrophe, no backslash and no line end, or one escape. -/
def single? : List CodeUnit → Option CodeUnit
  | [] => none
  | first :: rest =>
    if first = backslash then
      match decode? .begun rest with
      | some [value] => some value
      | _ => none
    else if rest = [] ∧ first ≠ apostrophe ∧ first ≠ 0xA ∧ first ≠ 0xD then some first
    else none

/-- The code units between two apostrophes. -/
def inside? : List CodeUnit → Option (List CodeUnit)
  | [] => none
  | first :: rest =>
    if first = apostrophe ∧ rest.getLast? = some apostrophe then some rest.dropLast else none

/-- The value of a character literal; nothing for a token that is none. -/
def character? (token : String) : Option CodeUnit := do
  single? (← inside? (← units? .outside token.toList))

example : character? "'\\u0041'" = some 0x41 ∧ character? "'\\101'" = some 0x41 ∧
    character? "'\\u0027'" = none := by
  decide

/-- A token between apostrophes is worth the code units of its text. -/
theorem character?_enclosed (text : List Char) :
    character? (String.ofList ('\'' :: text ++ ['\''])) = (units? .outside text).bind single? := by
  have mark : codeUnits '\'' = [apostrophe] := rfl
  have first : units? .outside ('\'' :: (text ++ ['\''])) =
      (units? .outside (text ++ ['\''])).map (apostrophe :: ·) := rfl
  rw [character?, String.toList_ofList, List.cons_append, first, units?_apart (by decide), mark]
  cases units? .outside text with
  | none => rfl
  | some units =>
    have closed : inside? (apostrophe :: (units ++ [apostrophe])) = some units := by simp [inside?]
    have last : units? .outside [] = some [] := rfl
    simp [last, closed]

/-- A text begins with a character that is no backslash, with a Unicode escape that has one `u` or
several, or with another escape. -/
inductive Begins : List Char → Prop where
  | plain (first : Char) (rest : List Char) (unescaped : first ≠ '\\') : Begins (first :: rest)
  | code (digits rest : List Char) (unit : CodeUnit) (later : List CodeUnit)
      (four : digits.length = 4) (alone : units? .outside ('\\' :: 'u' :: digits) = some [unit])
      (read : units? .outside ('\\' :: 'u' :: (digits ++ rest)) = some (unit :: later)) :
      Begins ('\\' :: 'u' :: (digits ++ rest))
  | marks (rest : List Char) : Begins ('\\' :: 'u' :: 'u' :: rest)
  | escape (second : Char) (rest : List Char) (other : second ≠ 'u') :
      Begins ('\\' :: second :: rest)

/-- Fewer digits than are missing complete no Unicode escape. -/
theorem units?_incomplete {count value : Nat} {text : List Char}
    (short : text.length + count < 4) : units? (.digits count value) text = none := by
  induction text generalizing count value with
  | nil => rfl
  | cons character rest inductionHypothesis =>
    rw [List.length_cons] at short
    rw [units?]
    split
    · exact inductionHypothesis (by omega)
    · split
      · rfl
      · rw [if_neg (by omega)]
        exact inductionHypothesis (by omega)

/-- A Unicode escape that is complete, and does not go on with a further `u`, has the missing
digits in front of the text behind it. -/
theorem units?_digits {count value : Nat} {text : List Char} {units : List CodeUnit}
    (within : count ≤ 3) (noMark : count = 0 → text.head? ≠ some 'u')
    (read : units? (.digits count value) text = some units) :
    ∃ digits rest unit later, text = digits ++ rest ∧ digits.length + count = 4 ∧
      units? (.digits count value) digits = some [unit] ∧ units = unit :: later := by
  induction text generalizing count value with
  | nil => cases read
  | cons character rest inductionHypothesis =>
    have unmarked : ¬(count = 0 ∧ character = 'u') := by
      rintro ⟨start, rfl⟩
      exact noMark start rfl
    rw [units?, if_neg unmarked] at read
    cases valued : hexValue? character with
    | none => rw [valued] at read; cases read
    | some digit =>
      have here : ∀ others, units? (.digits count value) (character :: others) =
          if count = 3 then (units? .outside others).map ((value * 16 + digit) :: ·)
          else units? (.digits (count + 1) (value * 16 + digit)) others := by
        intro others
        rw [units?, if_neg unmarked, valued]
      rw [valued] at read
      dsimp only at read
      by_cases last : count = 3
      · rw [if_pos last] at read
        obtain ⟨later, _, rfl⟩ := Option.map_eq_some_iff.mp read
        refine ⟨[character], rest, value * 16 + digit, later, rfl, ?_, ?_, rfl⟩
        · rw [List.length_singleton, last]
        · rw [here, if_pos last]
          rfl
      · rw [if_neg last] at read
        obtain ⟨digits, others, unit, later, rfl, length, alone, rfl⟩ :=
          inductionHypothesis (by omega) (by omega) read
        refine ⟨character :: digits, others, unit, later, rfl, ?_, ?_, rfl⟩
        · rw [List.length_cons]
          omega
        · rw [here, if_neg last]
          exact alone

/-- A text that is read, and is neither empty nor a single backslash, begins with a character that
is no backslash or with an escape. -/
theorem begins_of_read {text : List Char} {units : List CodeUnit}
    (read : units? .outside text = some units) (nonempty : units ≠ [])
    (closed : units ≠ [backslash]) : Begins text := by
  cases text with
  | nil => exact absurd (Option.some.inj read).symm nonempty
  | cons first rest =>
    by_cases escaping : first = '\\'
    · subst escaping
      cases rest with
      | nil => exact absurd (Option.some.inj read).symm closed
      | cons second rest =>
        by_cases unicode : second = 'u'
        · subst unicode
          by_cases marked : rest.head? = some 'u'
          · obtain ⟨others, rfl⟩ := List.head?_eq_some_iff.mp marked
            exact .marks others
          · obtain ⟨digits, others, unit, later, rfl, four, alone, rfl⟩ :=
              units?_digits (by omega) (fun _ => marked) read
            exact .code digits others unit later four alone read
        · exact .escape second rest unicode
    · exact .plain first rest escaping

/-- The beginnings of texts that are cut wrongly: a character beyond the basic plane; an octal
escape with another value than its first digit; a Unicode escape with several `u`; and a Unicode
escape of an apostrophe or of a backslash. -/
inductive Miscut : List Char → Prop where
  | supplementary (first : Char) (rest : List Char) (beyond : 0x10000 ≤ first.toNat) :
      Miscut (first :: rest)
  | octal (digit : Char) (rest : List Char) (short first : CodeUnit) (later : List CodeUnit)
      (single : octalValue? digit.toNat = some short)
      (read : contents? ('\\' :: digit :: rest) = some (first :: later)) (longer : first ≠ short) :
      Miscut ('\\' :: digit :: rest)
  | marks (rest : List Char) : Miscut ('\\' :: 'u' :: 'u' :: rest)
  | code (digits rest : List Char) (unit : CodeUnit) (four : digits.length = 4)
      (alone : units? .outside ('\\' :: 'u' :: digits) = some [unit])
      (special : unit = apostrophe ∨ unit = backslash) :
      Miscut ('\\' :: 'u' :: (digits ++ rest))

/-- The value of the character that is cut off a text, if there is one. -/
def cut? (text : List Char) : Option (Option CodeUnit) := (charToken? text).map character?

/-- A character is one code unit, or two surrogates if it is beyond the basic plane. -/
theorem codeUnits_cases (character : Char) :
    (character.toNat < 0x10000 ∧ codeUnits character = [character.toNat]) ∨
      (0x10000 ≤ character.toNat ∧ ∃ high low, codeUnits character = [high, low] ∧
        0xD800 ≤ high ∧ high ≤ 0xDFFF ∧ 0xD800 ≤ low) := by
  rw [codeUnits]
  by_cases basic : character.toNat < 0x10000
  · exact .inl ⟨basic, if_pos basic⟩
  · have bounded : character.toNat < 0x110000 := by
      rcases character.valid with low | ⟨_, bounded⟩
      · exact Nat.lt_trans low (by decide)
      · exact bounded
    have offset : (character.toNat - 0x10000) / 0x400 ≤ 0x7FF := by omega
    exact .inr ⟨Nat.le_of_not_lt basic, _, _, if_neg basic, Nat.le_add_right _ _,
      Nat.le_trans (Nat.add_le_add_left offset _) (by decide),
      Nat.le_trans (by decide) (Nat.le_add_right 0xDC00 _)⟩

/-- A code unit that is no surrogate is that of one character only. -/
theorem eq_of_mem_codeUnits {character other : Char} (basic : other.toNat < 0xD800)
    (among : other.toNat ∈ codeUnits character) : character = other := by
  rcases codeUnits_cases character with ⟨_, one⟩ | ⟨_, high, low, two, highAbove, _, lowAbove⟩
  · rw [one] at among
    exact Char.toNat_inj.mp (List.mem_singleton.mp among).symm
  · rw [two, List.mem_pair] at among
    rcases among with rfl | rfl
    · exact absurd basic (Nat.not_lt_of_le highAbove)
    · exact absurd basic (Nat.not_lt_of_le lowAbove)

/-- Only a quote starts with the code unit of a quote. -/
theorem eq_quote_of_starts {first : Char} {more later : List CodeUnit}
    (starts : codeUnits first ++ more = quote :: later) : first = '"' := by
  apply eq_of_mem_codeUnits (by decide)
  cases units : codeUnits first with
  | nil => exact absurd units (codeUnits_ne_nil first)
  | cons unit others =>
    rw [units, List.cons_append] at starts
    rw [(List.cons.inj starts).1]
    exact List.mem_cons_self

/-- What is cut off a text is shown between apostrophes, an apostrophe with a backslash. -/
theorem cut?_of_first {text first : List Char} (cut : firstCharacter? text = some first) :
    cut? text = some ((units? .outside (if first = ['\''] then ['\\', '\''] else first)).bind
      single?) := by
  rw [cut?, charToken?, cut, Option.map_some, Option.map_some]
  exact congrArg some (character?_enclosed _)

/-- A token that is no character literal does not have the first code unit of any value. -/
theorem none_ne_head (value : List CodeUnit) : some none ≠ value.head?.map some := by
  cases value <;> simp

/-- What is read in front as itself is the first code unit of the value. -/
theorem decode?_plain {unit : CodeUnit} {rest value : List CodeUnit} (unescaped : unit ≠ backslash)
    (decoded : decode? .outside (unit :: rest) = some value) :
    value.head? = some unit ∧ unit ≠ 0xA ∧ unit ≠ 0xD := by
  rw [decode?, plain, if_neg unescaped] at decoded
  split at decoded
  · cases decoded
  · rename_i free
    obtain ⟨_, _, rfl⟩ := Option.map_eq_some_iff.mp decoded
    exact ⟨rfl, fun same => free (.inr (.inl same)), fun same => free (.inr (.inr same))⟩

/-- A code unit that is read as itself, and is no apostrophe, is a character literal of its own. -/
theorem single?_plain {unit : CodeUnit} (unescaped : unit ≠ backslash) (free : unit ≠ apostrophe)
    (noFeed : unit ≠ 0xA) (noReturn : unit ≠ 0xD) : single? [unit] = some unit := by
  rw [single?, if_neg unescaped, if_pos ⟨rfl, free, noFeed, noReturn⟩]

/-- A character that is written as itself is cut rightly unless it is beyond the basic plane. -/
theorem cut?_plain {first : Char} {rest : List Char} {value : List CodeUnit}
    (unescaped : first ≠ '\\') (read : contents? (first :: rest) = some value) :
    cut? (first :: rest) = value.head?.map some ↔ first.toNat < 0x10000 := by
  have cut : firstCharacter? (first :: rest) = some [first] := by
    rw [firstCharacter?]
    · exact fun _ escaping => absurd escaping unescaped
    · exact fun escaping => absurd escaping unescaped
  obtain ⟨units, escapes, decoded⟩ := Option.bind_eq_some_iff.mp read
  rw [units?, if_neg unescaped] at escapes
  obtain ⟨later, _, rfl⟩ := Option.map_eq_some_iff.mp escapes
  have alone : units? .outside [first] = some (codeUnits first) := by
    rw [units?, if_neg unescaped]
    simp [units?]
  rw [cut?_of_first cut]
  rcases codeUnits_cases first with ⟨basic, one⟩ | ⟨beyond, high, low, two, surrogate, _⟩
  · refine iff_of_true ?_ basic
    rw [one] at decoded alone
    have noBackslash : first.toNat ≠ backslash := fun same => unescaped (Char.toNat_inj.mp same)
    obtain ⟨head, noFeed, noReturn⟩ := decode?_plain noBackslash decoded
    rw [head, Option.map_some]
    by_cases quoted : first = '\''
    · subst quoted
      rfl
    · have noApostrophe : first.toNat ≠ apostrophe := fun same => quoted (Char.toNat_inj.mp same)
      rw [if_neg (by simpa using quoted), alone, Option.bind_some,
        single?_plain noBackslash noApostrophe noFeed noReturn]
  · refine iff_of_false ?_ (Nat.not_lt_of_le beyond)
    have other : ¬[first] = ['\''] := by
      intro same
      rw [(List.cons.inj same).1] at beyond
      exact absurd beyond (by decide)
    have noBackslash : high ≠ backslash := by
      rintro rfl
      exact absurd surrogate (by decide)
    rw [if_neg other, alone, two, Option.bind_some, single?, if_neg noBackslash, if_neg (by simp)]
    exact none_ne_head value

/-- What is cut off a Unicode escape with several marks is no character. -/
theorem cut?_marks (rest : List Char) : cut? ('\\' :: 'u' :: 'u' :: rest) = some none := by
  have cut : firstCharacter? ('\\' :: 'u' :: 'u' :: rest) =
      some ('\\' :: 'u' :: 'u' :: rest.take 3) := rfl
  have short := List.length_take_le 3 rest
  have missing : units? (.digits 0 0) (rest.take 3) = none := units?_incomplete (by omega)
  have incomplete : units? .outside ('\\' :: 'u' :: 'u' :: rest.take 3) = none := missing
  rw [cut?_of_first cut, if_neg (by simp), incomplete]
  rfl

/-- The digits of a Unicode escape do not start with a further mark. -/
theorem digits_unmarked {digits : List Char} {unit : CodeUnit} (four : digits.length = 4)
    (alone : units? .outside ('\\' :: 'u' :: digits) = some [unit]) (rest others : List Char) :
    digits ++ rest ≠ 'u' :: others := by
  intro marked
  cases digits with
  | nil => cases four
  | cons digit digits =>
    obtain ⟨rfl, _⟩ := List.cons.inj marked
    rw [List.length_cons] at four
    have missing : units? (.digits 0 0) digits = none := units?_incomplete (by omega)
    exact absurd (missing.symm.trans alone) (by simp)

/-- A Unicode escape with one mark is cut off as it is. -/
theorem cut?_code {digits : List Char} {unit : CodeUnit} (four : digits.length = 4)
    (alone : units? .outside ('\\' :: 'u' :: digits) = some [unit]) (rest : List Char) :
    cut? ('\\' :: 'u' :: (digits ++ rest)) = some (single? [unit]) := by
  have cut : firstCharacter? ('\\' :: 'u' :: (digits ++ rest)) =
      some ('\\' :: 'u' :: digits) := by
    rw [firstCharacter?, List.take_left' four]
  rw [cut?_of_first cut, if_neg (by simp), alone]
  rfl

/-- A code unit is shown rightly between apostrophes unless it is an apostrophe or a backslash. -/
theorem single?_code {unit : CodeUnit} {later value : List CodeUnit}
    (decoded : decode? .outside (unit :: later) = some value) :
    some (single? [unit]) = value.head?.map some ↔ unit ≠ apostrophe ∧ unit ≠ backslash := by
  by_cases escaping : unit = backslash
  · refine iff_of_false ?_ fun free => free.2 escaping
    rw [escaping]
    exact none_ne_head value
  · by_cases quoted : unit = apostrophe
    · refine iff_of_false ?_ fun free => free.1 quoted
      rw [quoted]
      exact none_ne_head value
    · obtain ⟨head, noFeed, noReturn⟩ := decode?_plain escaping decoded
      rw [single?_plain escaping quoted noFeed noReturn, head]
      exact iff_of_true rfl ⟨quoted, escaping⟩

/-- A surrogate stands for nothing behind a backslash. -/
theorem surrogate_stands_for_nothing {unit : CodeUnit} (high : 0xD800 ≤ unit)
    (low : unit ≤ 0xDFFF) : octalValue? unit = none ∧ escaped? unit = none := by
  constructor
  · rw [octalValue?, if_neg]
    rintro ⟨_, small⟩
    exact absurd (Nat.le_trans high small) (by decide)
  · have invalid : ¬unit.isValidChar := by
      rintro (below | ⟨above, _⟩)
      · exact absurd high (Nat.not_le_of_lt below)
      · exact absurd low (Nat.not_le_of_lt above)
    rw [escaped?, Char.ofNat, dif_neg invalid]
    rfl

/-- Only characters of the basic plane stand for a code unit behind a backslash. -/
theorem basic_of_escape {second : Char} {later value : List CodeUnit}
    (decoded : decode? .begun (codeUnits second ++ later) = some value) :
    codeUnits second = [second.toNat] := by
  rcases codeUnits_cases second with ⟨_, one⟩ | ⟨_, high, low, two, above, below, _⟩
  · exact one
  · exfalso
    obtain ⟨noDigit, noLetter⟩ := surrogate_stands_for_nothing above below
    rw [two, List.cons_append, decode?, noDigit, noLetter] at decoded
    cases decoded

/-- One escape has a value. It is the first code unit of whatever follows if it is no octal one;
otherwise it is the first digit. -/
theorem decode?_escape {unit : CodeUnit} {later value : List CodeUnit}
    (decoded : decode? .begun (unit :: later) = some value) :
    ∃ short, single? [backslash, unit] = some short ∧
      (octalValue? unit = some short ∨ octalValue? unit = none ∧ value.head? = some short) := by
  rw [decode?] at decoded
  cases octal : octalValue? unit with
  | some digit =>
    refine ⟨digit, ?_, .inl rfl⟩
    rw [single?, if_pos rfl, decode?, octal]
    rfl
  | none =>
    rw [octal] at decoded
    cases letter : escaped? unit with
    | none => rw [letter] at decoded; cases decoded
    | some short =>
      rw [letter] at decoded
      obtain ⟨_, _, rfl⟩ := Option.map_eq_some_iff.mp decoded
      refine ⟨short, ?_, .inr ⟨rfl, rfl⟩⟩
      rw [single?, if_pos rfl, decode?, octal, letter]
      rfl

/-- An escape of another kind is cut rightly unless it is an octal one with another value than its
first digit. -/
theorem cut?_escape {second : Char} {rest : List Char} {value : List CodeUnit}
    (other : second ≠ 'u') (read : contents? ('\\' :: second :: rest) = some value) :
    cut? ('\\' :: second :: rest) = value.head?.map some ↔
      ∀ short, octalValue? second.toNat = some short → value.head? = some short := by
  obtain ⟨units, escapes, decoded⟩ := Option.bind_eq_some_iff.mp read
  have pair : ∀ others, units? .outside ('\\' :: second :: others) =
      (units? .outside others).map (backslash :: codeUnits second ++ ·) := by
    intro others
    rw [units?, if_pos rfl, units?, if_neg other]
  rw [pair] at escapes
  obtain ⟨later, _, rfl⟩ := Option.map_eq_some_iff.mp escapes
  rw [List.cons_append, decode?, plain, if_pos rfl] at decoded
  have basic := basic_of_escape decoded
  rw [basic, List.singleton_append] at decoded
  obtain ⟨short, single, kind⟩ := decode?_escape decoded
  have cut : firstCharacter? ('\\' :: second :: rest) = some ['\\', second] := by
    rw [firstCharacter?]
    · rfl
    · exact fun _ same => absurd (List.cons.inj same).1 other
  have alone : units? .outside ['\\', second] = some [backslash, second.toNat] := by
    rw [pair, basic]
    rfl
  have agrees : some (some short) = value.head?.map some ↔ value.head? = some short := by
    cases value with
    | nil => simp
    | cons first rest => simp [eq_comm]
  rw [cut?_of_first cut, if_neg (by simp), alone, Option.bind_some, single, agrees]
  rcases kind with digit | ⟨noDigit, head⟩
  · rw [digit]
    exact ⟨fun head _ same => by rw [head, same], fun right => right short rfl⟩
  · rw [noDigit]
    exact iff_of_true head fun _ none => by cases none

/-- The character of a text with a value is cut rightly unless the text is one of those that are
cut wrongly. -/
theorem cut?_iff {text : List Char} {value : List CodeUnit}
    (read : contents? text = some value) : cut? text = value.head?.map some ↔ ¬Miscut text := by
  obtain ⟨units, escapes, decoded⟩ := Option.bind_eq_some_iff.mp read
  by_cases empty : units = []
  · subst empty
    obtain ⟨_, rfl⟩ := units?_eq_nil escapes
    obtain rfl := Option.some.inj decoded
    refine iff_of_true rfl ?_
    rintro ⟨⟩
  · have closed : units ≠ [backslash] := by
      rintro rfl
      cases decoded
    cases begins_of_read escapes empty closed with
    | plain first rest unescaped =>
      rw [cut?_plain unescaped read]
      constructor
      · intro basic miscut
        cases miscut with
        | supplementary _ _ beyond => exact absurd basic (Nat.not_lt_of_le beyond)
        | octal => exact unescaped rfl
        | marks => exact unescaped rfl
        | code => exact unescaped rfl
      · intro right
        by_contra beyond
        exact right (.supplementary first rest (Nat.le_of_not_lt beyond))
    | code digits rest unit later four alone whole =>
      obtain rfl := Option.some.inj (whole.symm.trans escapes)
      rw [cut?_code four alone, single?_code decoded]
      constructor
      · rintro ⟨noApostrophe, noBackslash⟩ miscut
        generalize written : '\\' :: 'u' :: (digits ++ rest) = text at miscut
        cases miscut with
        | supplementary first _ beyond =>
          obtain ⟨rfl, _⟩ := List.cons.inj written
          exact absurd beyond (by decide)
        | octal digit _ _ _ _ single =>
          obtain ⟨_, tail⟩ := List.cons.inj written
          obtain ⟨rfl, _⟩ := List.cons.inj tail
          cases single
        | marks others =>
          exact digits_unmarked four alone rest others
            (List.cons.inj (List.cons.inj written).2).2
        | code others _ _ otherFour again special =>
          have same := (List.cons.inj (List.cons.inj written).2).2
          obtain ⟨rfl, _⟩ := List.append_inj same (four.trans otherFour.symm)
          obtain rfl := (List.cons.inj (Option.some.inj (again.symm.trans alone))).1
          exact special.elim noApostrophe noBackslash
      · intro right
        constructor
        · rintro rfl
          exact right (.code digits rest _ four alone (.inl rfl))
        · rintro rfl
          exact right (.code digits rest _ four alone (.inr rfl))
    | marks rest =>
      rw [cut?_marks rest]
      exact iff_of_false (none_ne_head value) (not_not_intro (.marks rest))
    | escape second rest other =>
      rw [cut?_escape other read]
      constructor
      · intro agrees miscut
        cases miscut with
        | supplementary _ _ beyond => exact absurd beyond (by decide)
        | octal _ _ short first later single again longer =>
          obtain rfl := Option.some.inj (again.symm.trans read)
          exact longer (Option.some.inj (agrees short single))
        | marks => exact other rfl
        | code => exact other rfl
      · intro right short single
        cases value with
        | nil => exact absurd ((contents?_eq_nil_iff _).mp read) (by simp)
        | cons first later =>
          rw [List.head?_cons, Option.some_inj]
          by_contra longer
          exact right (.octal second rest short first later single read longer)

/-- A token that starts with a quote has the quote cut off, or, where the quote is an escape with
several marks, nothing that is a character. -/
theorem cut?_of_quote {token : String} {later : List CodeUnit}
    (read : units? .outside token.toList = some (quote :: later)) :
    cut? token.toList =
      some (if ['\\', 'u', 'u'] <+: token.toList then none else some quote) := by
  have begins := begins_of_read read (by simp) (by simp [quote, backslash])
  generalize token.toList = text at read begins ⊢
  cases begins with
  | plain first rest unescaped =>
    rw [units?, if_neg unescaped] at read
    obtain ⟨others, _, starts⟩ := Option.map_eq_some_iff.mp read
    obtain rfl := eq_quote_of_starts starts
    rw [if_neg (by simp)]
    rfl
  | code digits rest unit others four alone whole =>
    obtain ⟨rfl, _⟩ := List.cons.inj (Option.some.inj (whole.symm.trans read))
    have unmarked : ¬['\\', 'u', 'u'] <+: '\\' :: 'u' :: (digits ++ rest) := by
      rintro ⟨others, marked⟩
      exact digits_unmarked four alone rest others
        (List.cons.inj (List.cons.inj marked).2).2.symm
    rw [cut?_code four alone, if_neg unmarked]
    rfl
  | marks rest => rw [cut?_marks rest, if_pos (by simp)]
  | escape second rest other =>
    rw [units?, if_pos rfl, units?, if_neg other] at read
    obtain ⟨others, _, same⟩ := Option.map_eq_some_iff.mp read
    exact absurd (List.cons.inj same).1 (by decide)

end StringToken

namespace Text

/-- No run of capitals has a letter of ASCII as its lower case, but for the sign of kelvins. -/
theorem capitalRuns_beyond_ascii : ∀ run ∈ capitalRuns,
    0x80 ≤ run.2.2.2 ∨ run.2.2.2 = 0x6B ∧ run.1 = run.2.1 := by
  decide +kernel

/-- The lower case of a code point beyond ASCII is beyond it, or a "k". -/
theorem lowerCode_beyond_ascii {code : Nat} (beyond : 0x80 ≤ code) :
    0x80 ≤ lowerCode capitalRuns code ∨ lowerCode capitalRuns code = 0x6B := by
  rcases lowerCode_cases capitalRuns code with
    same | ⟨first, last, step, lower, among, above, below, _, lowered⟩
  · exact .inl (by omega)
  · have apart := capitalRuns_beyond_ascii _ among
    dsimp only at apart
    omega

end Text

namespace StringToken

/-- The small letter for a code unit that is a capital letter of ASCII. -/
def lowerUnit (unit : CodeUnit) : CodeUnit :=
  if 0x41 ≤ unit ∧ unit ≤ 0x5A then unit + 0x20 else unit

/-- The value is the word "true" in any case. No letters but those of ASCII are cases of these. -/
def spellsTrue (value : List CodeUnit) : Bool :=
  value.map lowerUnit = "true".toList.map Char.toNat

/-- A code unit beyond ASCII is its own small letter. -/
theorem lowerUnit_beyond_ascii {unit : CodeUnit} (beyond : 0x80 ≤ unit) :
    lowerUnit unit = unit := by
  rw [lowerUnit, if_neg]
  rintro ⟨_, small⟩
  exact absurd (Nat.le_trans beyond small) (by decide)

/-- In ASCII, the small letter of a character is that of its code. -/
theorem toNat_toLower : ∀ code ∈ List.range 0x80,
    (Char.ofNat code).toLower.toNat = lowerUnit code := by
  decide +kernel

/-- A letter of ASCII that is the lower case of characters of ASCII alone. The "k" and the "i" are
in the lower cases of others. -/
def PlainLetter (letter : Char) : Prop :=
  letter.toNat < 0x80 ∧ letter.toNat ≠ 0x6B ∧ letter.toNat ≠ 0x69

instance (letter : Char) : Decidable (PlainLetter letter) := inferInstanceAs (Decidable (_ ∧ _))

/-- The letters of the word "true" are plain. -/
theorem letters_of_true : ∀ letter ∈ "true".toList, PlainLetter letter := by
  have all : ("true".toList.all fun letter => PlainLetter letter) = true := by decide +kernel
  simpa only [List.all_eq_true, decide_eq_true_eq] using all

/-- The lower case of a text that does not start in ASCII starts beyond it, or with a "k" or
an "i". -/
theorem lowerFrom_beyond_ascii (before : List Char) {character : Char} (rest : List Char)
    (beyond : 0x80 ≤ character.toNat) :
    ∃ head others, Text.lowerFrom before (character :: rest) = head :: others ∧
      (0x80 ≤ head.toNat ∨ head.toNat = 0x6B ∨ head.toNat = 0x69) := by
  rw [Text.lowerFrom]
  split
  · split
    · exact ⟨_, _, rfl, .inl (by decide)⟩
    · exact ⟨_, _, rfl, .inl (by decide)⟩
  · rw [Text.lowerCharacter, if_neg (Nat.not_lt_of_le beyond)]
    split
    · exact ⟨_, _, rfl, .inr (.inr rfl)⟩
    · refine ⟨_, _, rfl, ?_⟩
      obtain ⟨valid, _⟩ := Text.alike_lowerCode character.toNat character.valid
      rw [Text.toNat_ofNat_of_valid valid]
      exact (Text.lowerCode_beyond_ascii beyond).imp_right .inl

/-- A text in lower case has a plain letter in front exactly if the text has it there, in either
case. -/
theorem lowerFrom_starts (before : List Char) (character : Char) (rest : List Char)
    {letter : Char} (plain : PlainLetter letter) (tail : List Char) :
    Text.lowerFrom before (character :: rest) = letter :: tail ↔
      lowerUnit character.toNat = letter.toNat ∧
        Text.lowerFrom (character :: before) rest = tail := by
  obtain ⟨small, noKelvin, noDotted⟩ := plain
  by_cases ascii : character.toNat < 0x80
  · have code := toNat_toLower character.toNat (List.mem_range.mpr ascii)
    rw [Char.ofNat_toNat] at code
    rw [Text.lowerFrom, if_neg (by omega), Text.lowerCharacter, if_pos ascii,
      List.singleton_append, List.cons_eq_cons, ← Char.toNat_inj, code]
  · obtain ⟨head, others, lowered, far⟩ :=
      lowerFrom_beyond_ascii before rest (Nat.le_of_not_lt ascii)
    refine iff_of_false ?_ ?_
    · rw [lowered]
      intro starts
      obtain ⟨rfl, _⟩ := List.cons.inj starts
      omega
    · rintro ⟨same, _⟩
      rw [lowerUnit_beyond_ascii (Nat.le_of_not_lt ascii)] at same
      exact ascii (Nat.lt_of_le_of_lt (Nat.le_of_eq same) small)

/-- A text in lower case is a word of plain letters exactly if the text is made of them, in either
case. -/
theorem lowerFrom_iff (before text : List Char) {word : List Char}
    (letters : ∀ letter ∈ word, PlainLetter letter) :
    Text.lowerFrom before text = word ↔
      text.map (fun character => lowerUnit character.toNat) = word.map Char.toNat := by
  induction text generalizing before word with
  | nil =>
    cases word with
    | nil => exact iff_of_true rfl rfl
    | cons letter word => simp [Text.lowerFrom]
  | cons character rest inductionHypothesis =>
    cases word with
    | nil =>
      refine iff_of_false (fun empty => ?_) (by simp)
      have length := Text.length_le_lowerFrom before (character :: rest)
      rw [empty] at length
      exact absurd length (by simp)
    | cons letter word =>
      rw [List.forall_mem_cons] at letters
      rw [lowerFrom_starts before character rest letters.1, inductionHypothesis _ letters.2,
        List.map_cons, List.map_cons, List.cons_eq_cons]

/-- A text without backslashes has the code units of its characters. -/
theorem units?_unescaped {text : List Char} (unescaped : '\\' ∉ text) :
    units? .outside text = some (text.flatMap codeUnits) := by
  induction text with
  | nil => rfl
  | cons character rest inductionHypothesis =>
    rw [List.mem_cons, not_or] at unescaped
    rw [units?, if_neg (Ne.symm unescaped.1), inductionHypothesis unescaped.2]
    rfl

/-- A text without backslashes has no code unit of one. -/
theorem backslash_not_mem {text : List Char} (unescaped : '\\' ∉ text) :
    backslash ∉ text.flatMap codeUnits := by
  intro inside
  obtain ⟨character, written, among⟩ := List.mem_flatMap.mp inside
  obtain rfl : character = '\\' := eq_of_mem_codeUnits (by decide) among
  exact unescaped written

/-- Without backslashes, what is decoded is what stands there. -/
theorem decode?_unescaped {units value : List CodeUnit} (unescaped : backslash ∉ units)
    (decoded : decode? .outside units = some value) : value = units := by
  induction units generalizing value with
  | nil => exact (Option.some.inj decoded).symm
  | cons unit rest inductionHypothesis =>
    rw [List.mem_cons, not_or] at unescaped
    rw [decode?, plain, if_neg (Ne.symm unescaped.1)] at decoded
    split at decoded
    · cases decoded
    · obtain ⟨later, read, rfl⟩ := Option.map_eq_some_iff.mp decoded
      rw [inductionHypothesis unescaped.2 read]

/-- The code units of a text are plain letters in either case exactly if its characters are. -/
theorem lowerUnits_iff (text : List Char) {word : List Char}
    (letters : ∀ letter ∈ word, PlainLetter letter) :
    (text.flatMap codeUnits).map lowerUnit = word.map Char.toNat ↔
      text.map (fun character => lowerUnit character.toNat) = word.map Char.toNat := by
  induction text generalizing word with
  | nil => rfl
  | cons character rest inductionHypothesis =>
    rw [List.flatMap_cons, List.map_append, List.map_cons]
    rcases codeUnits_cases character with ⟨_, one⟩ | ⟨beyond, high, low, two, above, _⟩
    · rw [one, List.map_singleton, List.singleton_append]
      cases word with
      | nil => exact iff_of_false (by simp) (by simp)
      | cons letter word =>
        rw [List.forall_mem_cons] at letters
        rw [List.map_cons, List.cons_eq_cons, List.cons_eq_cons, inductionHypothesis letters.2]
    · rw [two]
      cases word with
      | nil => exact iff_of_false (by simp) (by simp)
      | cons letter word =>
        obtain ⟨small, _⟩ := letters letter List.mem_cons_self
        simp only [List.map_cons, List.cons_append, List.cons_eq_cons]
        rw [lowerUnit_beyond_ascii (Nat.le_trans (by decide) above),
          lowerUnit_beyond_ascii (Nat.le_trans (by decide) beyond)]
        refine iff_of_false ?_ ?_
        · rintro ⟨rfl, _⟩
          exact absurd (Nat.lt_of_le_of_lt above small) (by decide)
        · rintro ⟨same, _⟩
          exact absurd (Nat.lt_of_le_of_lt (same ▸ beyond) small) (by decide)

/-- A text is a word of plain letters in lower case exactly if its characters are the letters of the
word, in either case. -/
theorem lower_eq_iff (text : String) {word : String}
    (letters : ∀ letter ∈ word.toList, PlainLetter letter) :
    Text.lower text = word ↔ text.toList.map (fun character => lowerUnit character.toNat) =
      word.toList.map Char.toNat := by
  rw [← lowerFrom_iff [] text.toList letters, Text.lower, ← String.toList_inj,
    String.toList_ofList]

/-- A text that is the word "true" in lower case has no backslash. -/
theorem unescaped_of_lower {text : String} (lowered : Text.lower text = "true") :
    '\\' ∉ text.toList := by
  intro written
  rw [lower_eq_iff text letters_of_true] at lowered
  have among : backslash ∈ "true".toList.map Char.toNat := by
    rw [← lowered]
    exact List.mem_map.mpr ⟨_, written, by decide⟩
  exact absurd among (by decide)

/-- A text between quotes is the word "true" in lower case exactly if its value is the word in any
case and is written without escapes. -/
theorem lower_eq_true_of_read {text : String} {value : List CodeUnit}
    (read : contents? text.toList = some value) :
    Text.lower text = "true" ↔ spellsTrue value = true ∧ '\\' ∉ text.toList := by
  by_cases written : '\\' ∈ text.toList
  · exact iff_of_false (fun lowered => unescaped_of_lower lowered written) fun right =>
      right.2 written
  · obtain ⟨units, escapes, decoded⟩ := Option.bind_eq_some_iff.mp read
    obtain rfl := Option.some.inj ((units?_unescaped written).symm.trans escapes)
    obtain rfl := decode?_unescaped (backslash_not_mem written) decoded
    rw [lower_eq_iff text letters_of_true, ← lowerUnits_iff text.toList letters_of_true, spellsTrue,
      decide_eq_true_eq]
    exact (and_iff_left written).symm

/-- The code units of a token with a value start and end in a quote. -/
theorem enclosed_of_read {token : String} {value : List CodeUnit}
    (read : value? token = some value) : ∃ later,
      units? .outside token.toList = some (quote :: later) ∧ later.getLast? = some quote := by
  simp only [value?, Option.bind_eq_bind, Option.bind_eq_some_iff] at read
  obtain ⟨units, escapes, inner, enclosed, _⟩ := read
  cases units with
  | nil => cases enclosed
  | cons first later =>
    rw [between?] at enclosed
    split at enclosed
    · rename_i quotes
      exact ⟨later, by rw [escapes, quotes.1], quotes.2⟩
    · cases enclosed

/-- A token with a value that has no backslash has its quotes written as themselves. -/
theorem isStringToken_of_unescaped {token : String} {value : List CodeUnit}
    (read : value? token = some value) (unescaped : '\\' ∉ token.toList) :
    Expression.isStringToken token = true := by
  obtain ⟨later, escapes, last⟩ := enclosed_of_read read
  rw [units?_unescaped unescaped, Option.some_inj] at escapes
  rw [Expression.isStringToken]
  cases written : token.toList with
  | nil => rw [written] at escapes; cases escapes
  | cons first rest =>
    rw [written, List.flatMap_cons] at escapes
    obtain rfl := eq_quote_of_starts escapes
    obtain rfl : rest.flatMap codeUnits = later := (List.cons.inj escapes).2
    have ends : rest.getLast? = some '"' := by
      rcases List.eq_nil_or_concat' rest with rfl | ⟨front, final, rfl⟩
      · cases last
      · rw [List.flatMap_append, List.flatMap_singleton,
          List.getLast?_append_of_ne_nil _ (codeUnits_ne_nil final)] at last
        obtain rfl : final = '"' :=
          eq_of_mem_codeUnits (by decide) (List.mem_of_getLast? last)
        exact List.getLast?_concat
    cases rest with
    | nil => cases ends
    | cons second others => exact decide_eq_true ends

/-- What a token stands for is the word "true" in lower case exactly if its value is the word in any
case and no part of the token is an escape. -/
theorem lower_unquote_iff {token : String} {value : List CodeUnit}
    (read : value? token = some value) :
    Text.lower (unquote token) = "true" ↔ spellsTrue value = true ∧ '\\' ∉ token.toList := by
  by_cases quoted : Expression.isStringToken token = true
  · obtain ⟨text, rfl⟩ := eq_quoted_of_isStringToken quoted
    rw [value?_quoted] at read
    rw [unquote_quoted, lower_eq_true_of_read read, toList_quoted]
    simp
  · rw [unquote, if_neg quoted]
    refine iff_of_false (fun lowered => quoted ?_) fun right => quoted ?_
    · exact isStringToken_of_unescaped read (unescaped_of_lower lowered)
    · exact isStringToken_of_unescaped read right.2

end StringToken

open StringToken

/-- The value of an expression that is a character literal. -/
def Java.Expression.character? : Expression → Option CodeUnit
  | .literal token _ => StringToken.character? token
  | _ => none

/-- The conversion to a character cuts one off the text that the token stands for. -/
theorem convert_char (token : String) : ∃ answer, convert .char token = .ok answer ∧
    (answer = none ↔ (unquote token).toList = []) ∧
    answer.map Expression.character? = cut? (unquote token).toList := by
  refine ⟨(charToken? (unquote token).toList).map fun source =>
    .literal source (some (.primitive "char")), rfl, ?_, ?_⟩
  · rw [Option.map_eq_none_iff, charToken?, Option.map_eq_none_iff]
    generalize (unquote token).toList = text
    fun_cases firstCharacter? text <;> simp
  · rw [Option.map_map]
    rfl

/-- The conversions in place of a string literal to a character and to a truth value, against the
value of the literal. Where the quotes are written as themselves, no character is given exactly if
the value is empty, and otherwise the first code unit is given, exactly if the text is not cut
wrongly. A quote that is written as an escape is taken for a part of the text, so a character is
always given, and it is the quote or none. The truth value is true exactly if the value is the word
"true" in any case and nothing of the token is written as an escape. -/
theorem conversions_agree_exactly (token : String) (value : List CodeUnit)
    (read : value? token = some value) :
    (∃ answer, convert .char token = .ok answer ∧
      (∀ text, token = "\"" ++ text ++ "\"" → (answer = none ↔ value = []) ∧
        (answer.map Expression.character? = value.head?.map some ↔ ¬Miscut text.toList)) ∧
      (Expression.isStringToken token = false → answer ≠ none ∧
        (answer.map Expression.character? = value.head?.map some ↔
          value.head? = some quote ∧ ¬['\\', 'u', 'u'] <+: token.toList))) ∧
    ∃ truth : Bool,
      convert .boolean token = .ok (some (.literal (if truth then "true" else "false")
        (some (.primitive "boolean")))) ∧
      (truth = true ↔ spellsTrue value = true ∧ '\\' ∉ token.toList) := by
  obtain ⟨answer, given, emptiness, agreement⟩ := convert_char token
  refine ⟨⟨answer, given, ?_, ?_⟩, decide (Text.lower (unquote token) = "true"), ?_, ?_⟩
  · rintro text rfl
    rw [value?_quoted] at read
    rw [unquote_quoted] at emptiness agreement
    rw [agreement, cut?_iff read, emptiness]
    refine ⟨⟨fun empty => ?_, fun empty => ?_⟩, Iff.rfl⟩
    · rw [empty] at read
      exact (Option.some.inj read).symm
    · rw [empty] at read
      exact (contents?_eq_nil_iff _).mp read
  · intro unquoted
    obtain ⟨later, escapes, _⟩ := enclosed_of_read read
    rw [unquote, if_neg (by simp [unquoted])] at emptiness agreement
    rw [agreement, cut?_of_quote escapes, Ne, emptiness]
    constructor
    · intro empty
      rw [empty] at escapes
      cases escapes
    · split
      · rename_i marked
        exact iff_of_false (none_ne_head value) fun right => right.2 marked
      · rename_i unmarked
        rw [and_iff_left unmarked]
        cases value <;> simp [eq_comm]
  · change Except.ok (some (Expression.literal (booleanToken (unquote token)) _)) = _
    rw [booleanToken]
    simp only [decide_eq_true_eq]
  · rw [decide_eq_true_eq]
    exact lower_unquote_iff read

/-- A text that starts with an escape of one letter gives the character of the escape, and the word
"true" is true in mixed case. -/
theorem conversions_agree_exactly_line_feed :
    (∃ answer, convert .char "\"\\n\\u00e9\"" = .ok answer ∧
      answer.map Expression.character? = some (some 0xA)) ∧
      convert .boolean "\"TrUe\"" = .ok (some (.literal "true" (some (.primitive "boolean")))) := by
  constructor
  · obtain ⟨⟨answer, given, written, _⟩, _⟩ :=
      conversions_agree_exactly "\"\\n\\u00e9\"" [0xA, 0xE9] (by decide)
    refine ⟨answer, given, (written "\\n\\u00e9" rfl).2.mpr fun miscut => ?_⟩
    cases miscut with
    | supplementary _ _ beyond => exact absurd beyond (by decide)
    | octal _ _ _ _ _ single => cases single
  · obtain ⟨_, truth, converted, exactly⟩ := conversions_agree_exactly "\"TrUe\""
      ("TrUe".toList.map Char.toNat) (by decide)
    obtain rfl : truth = true := exactly.mpr ⟨by decide, by decide⟩
    exact converted

/-- An octal escape is cut behind its first digit, so a text that starts with the letter "A" gives
another character. A truth value is false if one of its letters is an escape. -/
theorem escapes_cut_short :
    value? "\"\\101\"" = some [0x41] ∧
      (∃ answer, convert .char "\"\\101\"" = .ok (some answer) ∧ answer.character? = some 1) ∧
      value? "\"\\u0074rue\"" = some ("true".toList.map Char.toNat) ∧
      convert .boolean "\"\\u0074rue\"" =
        .ok (some (.literal "false" (some (.primitive "boolean")))) :=
  ⟨by decide, ⟨_, rfl, by decide⟩, by decide, rfl⟩

end TypedDefaults
