import Mathlib.Data.Option.Basic
import TypedDefaults.Json.Token
import TypedDefaults.Literal.Split

/-!
# What string tokens stand for

The text of a program is read twice before a string literal has its value. First
every Unicode escape becomes the code unit that it names: a backslash that is
not itself escaped, one `u` or more, and four hexadecimal digits. Only then the
quotes are found and the other escapes decoded, which are a backslash with one
of a few characters, or with up to three octal digits. So a quote, a backslash
or a comma may be written in several ways. The value is a list of UTF-16 code
units.

Both readings begin anew behind a character that belongs to no escape. For this
reason a text is worth what its parts between commas are worth.
-/

namespace TypedDefaults

open Java

/-- The characters of a text between quotes. -/
theorem toList_quoted (text : String) :
    ("\"" ++ text ++ "\"").toList = '"' :: (text.toList ++ ['"']) := by
  simp

/-- A text between quotes is a string token. -/
theorem isStringToken_quoted (text : String) :
    Expression.isStringToken ("\"" ++ text ++ "\"") = true := by
  rw [Expression.isStringToken, toList_quoted]
  cases text.toList with
  | nil => rfl
  | cons first rest =>
    change decide ((first :: rest ++ ['"']).getLast? = some '"') = true
    rw [List.getLast?_concat]
    exact decide_eq_true rfl

/-- A string token is a text between quotes. -/
theorem eq_quoted_of_isStringToken {token : String}
    (quoted : Expression.isStringToken token = true) :
    ∃ text : String, token = "\"" ++ text ++ "\"" := by
  rw [Expression.isStringToken] at quoted
  split at quoted
  · rename_i second rest characters
    obtain ⟨inner, ends⟩ := List.getLast?_eq_some_iff.mp (of_decide_eq_true quoted)
    refine ⟨String.ofList inner, String.toList_inj.mp ?_⟩
    rw [toList_quoted, String.toList_ofList, characters, ends]
  · cases quoted

/-- The text between the quotes of a string token is the text that was put there. -/
theorem unquote_quoted (text : String) : Literal.unquote ("\"" ++ text ++ "\"") = text := by
  rw [Literal.unquote, if_pos (isStringToken_quoted text), toList_quoted]
  simp

namespace StringToken

open Json.Token (hexValue?)

/-- A UTF-16 code unit. -/
abbrev CodeUnit := Nat

/-- The code units of a character: itself, or two surrogates for one beyond the basic plane. -/
def codeUnits (character : Char) : List CodeUnit :=
  let code := character.toNat
  if code < 0x10000 then [code]
  else [0xD800 + (code - 0x10000) / 0x400, 0xDC00 + (code - 0x10000) % 0x400]

/-- The code unit of a double quote. -/
def quote : CodeUnit := 0x22

/-- The code unit of a comma. -/
def comma : CodeUnit := 0x2C

/-- The code unit of a backslash. -/
def backslash : CodeUnit := 0x5C

/-- How far a Unicode escape is read: not begun, a backslash that may begin one, or some digits
behind `u` and their value. -/
inductive UnicodeState where
  | outside
  | begun
  | digits (count value : Nat)
  deriving DecidableEq, Repr

/-- The code units of a text with its Unicode escapes replaced. A backslash behind a backslash
begins no escape, and no escape may be incomplete. -/
def units? : UnicodeState → List Char → Option (List CodeUnit)
  | .outside, [] => some []
  | .begun, [] => some [backslash]
  | .digits _ _, [] => none
  | .outside, character :: rest =>
    if character = '\\' then units? .begun rest
    else (units? .outside rest).map (codeUnits character ++ ·)
  | .begun, character :: rest =>
    if character = 'u' then units? (.digits 0 0) rest
    else (units? .outside rest).map (backslash :: codeUnits character ++ ·)
  | .digits count value, character :: rest =>
    if count = 0 ∧ character = 'u' then units? (.digits 0 0) rest
    else
      match hexValue? character with
      | none => none
      | some digit =>
        if count = 3 then (units? .outside rest).map ((value * 16 + digit) :: ·)
        else units? (.digits (count + 1) (value * 16 + digit)) rest

/-- How far an escape is read: not begun, a backslash, or the value of some octal digits and how
many more there may be. -/
inductive EscapeState where
  | outside
  | begun
  | octal (value room : Nat)
  deriving DecidableEq, Repr

/-- The value of an octal digit. -/
def octalValue? (unit : CodeUnit) : Option Nat :=
  if 0x30 ≤ unit ∧ unit ≤ 0x37 then some (unit - 0x30) else none

/-- The value of a further octal digit, where there may be one. -/
def further? (room : Nat) (unit : CodeUnit) : Option Nat :=
  if room = 0 then none else octalValue? unit

/-- The code unit that a character stands for behind a backslash. -/
def escaped? (unit : CodeUnit) : Option CodeUnit :=
  match Char.ofNat unit with
  | 'b' => some 0x8
  | 't' => some 0x9
  | 'n' => some 0xA
  | 'f' => some 0xC
  | 'r' => some 0xD
  | 's' => some 0x20
  | '"' => some quote
  | '\'' => some 0x27
  | '\\' => some backslash
  | _ => none

/-- Reads a code unit outside of escapes. Quotes and line ends must be escaped. -/
def plain (unit : CodeUnit) (next : EscapeState → Option (List CodeUnit)) :
    Option (List CodeUnit) :=
  if unit = backslash then next .begun
  else if unit = quote ∨ unit = 0xA ∨ unit = 0xD then none
  else (next .outside).map (unit :: ·)

/-- Decodes the escapes of what stands between quotes. -/
def decode? : EscapeState → List CodeUnit → Option (List CodeUnit)
  | .outside, [] => some []
  | .begun, [] => none
  | .octal value _, [] => some [value]
  | .outside, unit :: rest => plain unit fun state => decode? state rest
  | .begun, unit :: rest =>
    match octalValue? unit with
    | some digit => decode? (.octal digit (if digit ≤ 3 then 2 else 1)) rest
    | none =>
      match escaped? unit with
      | some value => (decode? .outside rest).map (value :: ·)
      | none => none
  | .octal value room, unit :: rest =>
    match further? room unit with
    | some digit => decode? (.octal (value * 8 + digit) (room - 1)) rest
    | none => (plain unit fun state => decode? state rest).map (value :: ·)

/-- The value of a text between quotes. -/
def contents? (text : List Char) : Option (List CodeUnit) :=
  (units? .outside text).bind (decode? .outside)

/-- The code units between two quotes. -/
def between? : List CodeUnit → Option (List CodeUnit)
  | [] => none
  | first :: rest => if first = quote ∧ rest.getLast? = some quote then some rest.dropLast else none

/-- The value of a string token; nothing for a token that is no string literal. -/
def value? (token : String) : Option (List CodeUnit) := do
  decode? .outside (← between? (← units? .outside token.toList))

example : value? "\"a\\u002c\\054\\\\u0041\\7z\"" =
    some [0x61, 0x2C, 0x2C, 0x5C, 0x75, 0x30, 0x30, 0x34, 0x31, 0x7, 0x7A] := by
  decide

theorem codeUnits_ne_nil (character : Char) : codeUnits character ≠ [] := by
  simp only [codeUnits]
  split <;> simp

/-- A character that belongs to no Unicode escape. -/
def Apart (character : Char) : Prop :=
  character ≠ '\\' ∧ character ≠ 'u' ∧ hexValue? character = none

instance (character : Char) : Decidable (Apart character) :=
  inferInstanceAs (Decidable (_ ∧ _ ∧ _))

/-- Behind a character that belongs to no Unicode escape, Unicode escapes are read anew. -/
theorem units?_apart {mark : Char} (apart : Apart mark) (state : UnicodeState)
    (before after : List Char) :
    units? state (before ++ mark :: after) =
      (units? state before).bind fun first =>
        (units? .outside after).map fun second => first ++ codeUnits mark ++ second := by
  obtain ⟨noBackslash, noMark, noDigit⟩ := apart
  induction before generalizing state with
  | nil =>
    cases state <;> simp [units?, noBackslash, noMark, noDigit]
  | cons character rest inductionHypothesis =>
    cases state with
    | outside =>
      rw [List.cons_append, units?, units?]
      split
      · exact inductionHypothesis .begun
      · simp [inductionHypothesis, Option.bind_map, Function.comp_def, Option.map_bind]
    | begun =>
      rw [List.cons_append, units?, units?]
      split
      · exact inductionHypothesis (.digits 0 0)
      · simp [inductionHypothesis, Option.bind_map, Function.comp_def, Option.map_bind]
    | digits count value =>
      rw [List.cons_append, units?, units?]
      split
      · exact inductionHypothesis (.digits 0 0)
      · split
        · rfl
        · split
          · simp [inductionHypothesis, Option.bind_map, Function.comp_def, Option.map_bind]
          · exact inductionHypothesis _

/-- Only an empty text has no code units. -/
theorem units?_eq_nil {state : UnicodeState} {text : List Char}
    (empty : units? state text = some []) : state = .outside ∧ text = [] := by
  induction text generalizing state with
  | nil => cases state <;> simp_all [units?]
  | cons character rest inductionHypothesis =>
    exfalso
    cases state with
    | outside =>
      rw [units?] at empty
      split at empty
      · cases (inductionHypothesis empty).1
      · obtain ⟨later, _, none⟩ := Option.map_eq_some_iff.mp empty
        exact codeUnits_ne_nil character (List.append_eq_nil_iff.mp none).1
    | begun =>
      rw [units?] at empty
      split at empty
      · cases (inductionHypothesis empty).1
      · simp at empty
    | digits count value =>
      rw [units?] at empty
      split at empty
      · cases (inductionHypothesis empty).1
      · split at empty
        · cases empty
        · split at empty
          · simp at empty
          · cases (inductionHypothesis empty).1

/-- What is read outside of escapes goes on as what follows does. -/
theorem plain_bind (unit : CodeUnit) {next earlier : EscapeState → Option (List CodeUnit)}
    {later : Option (List CodeUnit)}
    (goes : ∀ state, next state =
      (earlier state).bind fun first => later.map fun second => first ++ comma :: second) :
    plain unit next =
      (plain unit earlier).bind fun first => later.map fun second => first ++ comma :: second := by
  rw [plain, plain]
  split
  · exact goes .begun
  · split
    · rfl
    · rw [goes]
      simp [Option.bind_map, Function.comp_def, Option.map_bind]

/-- Behind a comma, escapes are read anew. -/
theorem decode?_comma (state : EscapeState) (before after : List CodeUnit) :
    decode? state (before ++ comma :: after) =
      (decode? state before).bind fun first =>
        (decode? .outside after).map fun second => first ++ comma :: second := by
  have noDigit : octalValue? comma = none := by decide
  have noEscape : escaped? comma = none := by decide
  have noFurther : ∀ room, further? room comma = none := by
    intro room
    rw [further?, noDigit, ite_self]
  have itself : ∀ next, plain comma next = (next .outside).map (comma :: ·) := fun _ => rfl
  induction before generalizing state with
  | nil => cases state <;> simp [decode?, noDigit, noFurther, noEscape, itself, Function.comp_def]
  | cons unit rest inductionHypothesis =>
    cases state with
    | outside => exact plain_bind unit inductionHypothesis
    | begun =>
      rw [List.cons_append, decode?, decode?]
      split
      · exact inductionHypothesis _
      · split
        · simp [inductionHypothesis, Option.bind_map, Function.comp_def, Option.map_bind]
        · rfl
    | octal value room =>
      have goes := plain_bind unit inductionHypothesis
      rw [List.cons_append, decode?, decode?]
      split
      · exact inductionHypothesis _
      · rw [goes]
        simp [Option.bind_map, Function.comp_def, Option.map_bind]

/-- Only what holds no code unit stands for an empty string. -/
theorem decode?_eq_nil {state : EscapeState} {units : List CodeUnit}
    (empty : decode? state units = some []) : state = .outside ∧ units = [] := by
  induction units generalizing state with
  | nil => cases state <;> simp_all [decode?]
  | cons unit rest inductionHypothesis =>
    exfalso
    cases state with
    | outside =>
      rw [decode?, plain] at empty
      split at empty
      · cases (inductionHypothesis empty).1
      · split at empty
        · cases empty
        · simp at empty
    | begun =>
      rw [decode?] at empty
      split at empty
      · cases (inductionHypothesis empty).1
      · split at empty
        · simp at empty
        · cases empty
    | octal value room =>
      rw [decode?] at empty
      split at empty
      · cases (inductionHypothesis empty).1
      · simp at empty

/-- The value of a text with a comma is made of those of the parts around it. -/
theorem contents?_comma (before after : List Char) :
    contents? (before ++ ',' :: after) =
      (contents? before).bind fun first =>
        (contents? after).map fun second => first ++ comma :: second := by
  have mark : codeUnits ',' = [comma] := rfl
  rw [contents?, contents?, contents?, units?_apart (by decide), mark]
  cases units? .outside before with
  | none => rfl
  | some first =>
    cases units? .outside after with
    | none => simp
    | some second =>
      simp only [Option.bind_some, Option.map_some, List.append_assoc, List.singleton_append]
      exact decode?_comma .outside first second

/-- Only an empty text stands for an empty string. -/
theorem contents?_eq_nil_iff (text : List Char) : contents? text = some [] ↔ text = [] := by
  constructor
  · intro empty
    obtain ⟨units, read, decoded⟩ := Option.bind_eq_some_iff.mp empty
    obtain ⟨_, rfl⟩ := decode?_eq_nil decoded
    exact (units?_eq_nil read).2
  · rintro rfl
    rfl

/-- What stands between quotes is worth its contents. -/
theorem value?_quoted (text : String) :
    value? ("\"" ++ text ++ "\"") = contents? text.toList := by
  have mark : codeUnits '"' = [quote] := rfl
  have first : units? .outside ('"' :: (text.toList ++ ['"'])) =
      (units? .outside (text.toList ++ ['"'])).map (quote :: ·) := rfl
  rw [value?, toList_quoted, first, units?_apart (by decide), contents?, mark]
  cases units? .outside text.toList with
  | none => rfl
  | some units =>
    have closed : between? (quote :: (units ++ [quote])) = some units := by simp [between?]
    have last : units? .outside [] = some [] := rfl
    simp [last, closed]

/-- An unescaped quote is no text between quotes. -/
theorem contents?_of_quote {text : List Char} {units : List CodeUnit}
    (read : units? .outside text = some (quote :: units)) : contents? text = none := by
  rw [contents?, read]
  rfl

end StringToken

end TypedDefaults
