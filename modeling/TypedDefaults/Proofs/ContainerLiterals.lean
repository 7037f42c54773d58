import Mathlib.Algebra.GroupWithZero.Nat
import Mathlib.Data.List.DropRight
import Mathlib.Data.List.Forall2
import TypedDefaults.FieldTemplate
import TypedDefaults.Proofs.StringTokens

/-!
# Containers written as one string

A string for a container is split at commas: by a field of the class when the
program runs, or in advance, into an array of literals. The field splits the
value of the string, the array is made of parts of its text. Both come to the
same list where the text shows every comma of the value, and to different lists
where it hides one in an escape.
-/

namespace TypedDefaults

open Java StringToken

section

variable {α : Type}

/-- The parts without the empty ones at the end, of which a text without separator has none. -/
def trimmed (parts : List (List α)) : List (List α) :=
  match parts with
  | [only] => [only]
  | parts => parts.rdropWhile List.isEmpty

/-- A part that is not empty is not trimmed. -/
theorem mem_trimmed {parts : List (List α)} {part : List α} (inside : part ∈ parts)
    (filled : part ≠ []) : part ∈ trimmed parts := by
  unfold trimmed
  split
  · exact inside
  · rw [← List.rdropWhile_append_rtakeWhile (p := List.isEmpty) (l := parts),
      List.mem_append] at inside
    refine inside.resolve_right fun dropped => filled ?_
    simpa using List.mem_rtakeWhile_imp dropped

/-- Related parts are related when they are trimmed, if empty ones are related to empty ones
only. -/
theorem forall₂_trimmed {β : Type} {related : List α → List β → Prop} {parts : List (List α)}
    {others : List (List β)} (pairs : List.Forall₂ related parts others)
    (empty : ∀ part other, related part other → part.isEmpty = other.isEmpty) :
    List.Forall₂ related (trimmed parts) (trimmed others) := by
  have dropped : ∀ {parts : List (List α)} {others : List (List β)},
      List.Forall₂ related parts others →
        List.Forall₂ related (parts.dropWhile List.isEmpty) (others.dropWhile List.isEmpty) := by
    intro parts others pairs
    induction pairs with
    | nil => exact .nil
    | cons head tail inductionHypothesis =>
      rw [List.dropWhile_cons, List.dropWhile_cons, empty _ _ head]
      split
      · exact inductionHypothesis
      · exact .cons head tail
  cases pairs with
  | nil => exact .nil
  | cons head tail =>
    cases tail with
    | nil => exact .cons head .nil
    | cons second rest =>
      have all := List.Forall₂.cons head (.cons second rest)
      exact List.rel_reverse (dropped (List.rel_reverse all))

variable [DecidableEq α]

/-- The method `split` of strings for a separator: a text without it is not split, and otherwise
empty parts at the end are left out. -/
def javaSplit (separator : α) (text : List α) : List (List α) :=
  if separator ∈ text then (text.splitOn separator).rdropWhile List.isEmpty else [text]

/-- No part of a text has the mark at which the text is cut. -/
theorem not_mem_of_mem_splitOn {mark : α} {text part : List α} (inside : part ∈ text.splitOn mark) :
    mark ∉ part := by
  induction text generalizing part with
  | nil =>
    rw [List.splitOn_nil, List.mem_singleton] at inside
    simp [inside]
  | cons first rest inductionHypothesis =>
    rw [List.splitOn_cons_eq_if_modifyHead] at inside
    by_cases same : first = mark
    · rw [if_pos (by simpa using same)] at inside
      rcases List.mem_cons.mp inside with rfl | behind
      · exact List.not_mem_nil
      · exact inductionHypothesis behind
    · rw [if_neg (by simpa using same)] at inside
      obtain ⟨head, tail, cut⟩ := List.exists_cons_of_ne_nil (List.splitOn_ne_nil mark rest)
      rw [cut] at inside inductionHypothesis
      rcases List.mem_cons.mp inside with rfl | behind
      · rw [List.mem_cons, not_or]
        exact ⟨Ne.symm same, inductionHypothesis List.mem_cons_self⟩
      · exact inductionHypothesis (List.mem_cons_of_mem head behind)

/-- Where parts have no separator, the text that they make is split into them. -/
theorem javaSplit_intercalate (separator : α) (parts : List (List α)) (some : parts ≠ [])
    (apart : ∀ part ∈ parts, separator ∉ part) :
    javaSplit separator ([separator].intercalate parts) = trimmed parts := by
  match parts with
  | [] => exact absurd rfl some
  | [only] =>
    rw [List.intercalate_singleton, javaSplit, if_neg (apart only List.mem_cons_self)]
    rfl
  | first :: second :: rest =>
    have inside : separator ∈ [separator].intercalate (first :: second :: rest) := by
      simp [List.intercalate_cons_cons]
    rw [javaSplit, if_pos inside, List.splitOn_intercalate separator apart some]
    rfl

/-- The method `split` cuts a text at every separator and trims the parts. -/
theorem javaSplit_eq_trimmed (separator : α) (text : List α) :
    javaSplit separator text = trimmed (text.splitOn separator) := by
  have whole := javaSplit_intercalate separator (text.splitOn separator)
    (List.splitOn_ne_nil separator text) fun _ => not_mem_of_mem_splitOn
  rwa [List.intercalate_splitOn] at whole

/-- No part into which the method `split` splits a text has the separator. -/
theorem not_mem_of_mem_javaSplit {separator : α} {text part : List α}
    (inside : part ∈ javaSplit separator text) : separator ∉ part := by
  rw [javaSplit] at inside
  split at inside
  · exact not_mem_of_mem_splitOn ((List.rdropWhile_prefix _ _).subset inside)
  · rename_i absent
    rwa [List.mem_singleton.mp inside]

/-- A text has the separators of its parts, and those between them. -/
theorem count_intercalate (separator : α) (parts : List (List α)) (some : parts ≠ []) :
    ([separator].intercalate parts).count separator + 1 =
      parts.length + (parts.map (List.count separator)).sum := by
  induction parts with
  | nil => exact absurd rfl some
  | cons first rest inductionHypothesis =>
    cases rest with
    | nil => simp; omega
    | cons second rest =>
      have later := inductionHypothesis (by simp)
      rw [List.intercalate_cons_cons, List.count_append, List.count_append,
        List.count_singleton_self, List.map_cons, List.sum_cons, List.length_cons]
      omega

end

/-- Cutting a text at a character is splitting it there. -/
theorem parts_singleton (mark : Char) (text : List Char) :
    Text.parts [mark] text = text.splitOn mark := by
  rw [Text.parts]
  induction text with
  | nil => rfl
  | cons first rest inductionHypothesis =>
    rw [List.splitOn_cons_eq_if_modifyHead, ← inductionHypothesis, Text.cutAt]
    by_cases same : first = mark
    · simp [same]
    · obtain ⟨head, tail, cut⟩ := List.exists_cons_of_ne_nil (List.splitOn_ne_nil mark rest)
      rw [if_neg (by simpa using Ne.symm same), if_neg (by simpa using same), inductionHypothesis,
        cut]
      rfl

/-- A text is split in advance as the method would split it. -/
theorem splitAtCommas_eq (text : String) :
    Literal.splitAtCommas text = (javaSplit ',' text.toList).map String.ofList := by
  rw [Literal.splitAtCommas, Literal.splitCharacters, parts_singleton, javaSplit_eq_trimmed]
  rcases text.toList.splitOn ',' with _ | ⟨only, _ | ⟨second, rest⟩⟩ <;> rfl

/-- The string that a literal stands for. -/
def Java.Expression.string? : Expression → Option (List CodeUnit)
  | .literal token _ => value? token
  | _ => none

/-- A code unit that is an operator of regular expressions, and stands for no code unit. -/
def isOperator (unit : CodeUnit) : Bool :=
  (".$|()[\x7b^?*+\\".toList.map Char.toNat).contains unit

/-- The strings that an expression stands for: those of an array of literals, or the parts of a
string at a separator of one code unit. -/
def Java.Expression.strings? : Expression → Option (List (List CodeUnit))
  | .arrayInitializer elements => elements.mapM Expression.string?
  | .call "split" (some receiver) [separator] _ =>
    match receiver.string?, separator.string? with
    | some text, some [unit] => if isOperator unit then none else some (javaSplit unit text)
    | _, _ => none
  | _ => none

/-- A list is read if all of its parts are. -/
theorem mapM_eq_some_iff {α β : Type} (read : α → Option β) (parts : List α) (values : List β) :
    parts.mapM read = some values ↔ List.Forall₂ (fun part value => read part = some value) parts
      values := by
  induction parts generalizing values with
  | nil => simp [eq_comm]
  | cons part rest inductionHypothesis =>
    rw [List.mapM_cons]
    cases values with
    | nil => simp [Option.bind_eq_some_iff]
    | cons value others =>
      simp [List.forall₂_cons, ← inductionHypothesis, Option.bind_eq_some_iff]

/-- A text stands for a string exactly if each of its parts does, and the string is made of
theirs. -/
theorem contents?_intercalate (parts : List (List Char)) (some : parts ≠ [])
    (value : List CodeUnit) :
    contents? ([','].intercalate parts) = .some value ↔
      ∃ values, List.Forall₂ (fun part value => contents? part = .some value) parts values ∧
        value = [comma].intercalate values := by
  induction parts generalizing value with
  | nil => exact absurd rfl some
  | cons first rest inductionHypothesis =>
    cases rest with
    | nil =>
      rw [List.intercalate_singleton]
      constructor
      · intro valued
        exact ⟨[value], .cons valued .nil, List.intercalate_singleton.symm⟩
      · rintro ⟨_, _ | ⟨valued, ⟨⟩⟩, rfl⟩
        rw [List.intercalate_singleton]
        exact valued
    | cons second rest =>
      have joined : [','].intercalate (first :: second :: rest) =
          first ++ ',' :: [','].intercalate (second :: rest) := by
        rw [List.intercalate_cons_cons, List.append_assoc, List.singleton_append]
      have later := inductionHypothesis (by simp)
      rw [joined, contents?_comma]
      simp only [Option.bind_eq_some_iff, Option.map_eq_some_iff, later]
      constructor
      · rintro ⟨front, valued, _, ⟨values, each, rfl⟩, rfl⟩
        obtain ⟨next, others, rfl⟩ := List.exists_cons_of_ne_nil
          (l := values) (by rintro rfl; cases each)
        exact ⟨front :: next :: others, .cons valued each, by
          rw [List.intercalate_cons_cons, List.append_assoc, List.singleton_append]⟩
      · rintro ⟨_, _ | ⟨valued, _ | ⟨next, others⟩⟩, rfl⟩
        exact ⟨_, valued, _, ⟨_, .cons next others, rfl⟩, by
          rw [List.intercalate_cons_cons, List.append_assoc, List.singleton_append]⟩

/-- An array of quoted texts stands for their values. -/
theorem strings?_quoted (parts : List (List Char)) (values : List (List CodeUnit)) :
    (Expression.arrayInitializer ((parts.map String.ofList).map fun part =>
        .literal ("\"" ++ part ++ "\"") none)).strings? = some values ↔
      List.Forall₂ (fun part value => contents? part = some value) parts values := by
  rw [Expression.strings?, mapM_eq_some_iff, List.map_map, List.forall₂_map_left_iff]
  simp [Expression.string?, value?_quoted]

/-- In front of its first comma, a text that begins with an unescaped quote has it too. -/
theorem quote_of_splitOn {text head : List Char} {tail : List (List Char)} {units : List CodeUnit}
    (read : units? .outside text = some (quote :: units)) (cut : text.splitOn ',' = head :: tail) :
    ∃ others, units? .outside head = some (quote :: others) := by
  have whole : [','].intercalate (head :: tail) = text := by
    rw [← cut, List.intercalate_splitOn]
  cases tail with
  | nil =>
    rw [List.intercalate_singleton] at whole
    exact ⟨units, whole ▸ read⟩
  | cons second rest =>
    rw [List.intercalate_cons_cons, List.append_assoc, List.singleton_append] at whole
    rw [← whole, units?_apart (by decide)] at read
    obtain ⟨front, readFront, joined⟩ := Option.bind_eq_some_iff.mp read
    obtain ⟨back, _, joined⟩ := Option.map_eq_some_iff.mp joined
    cases front with
    | nil => cases (List.cons.inj joined).1
    | cons first others =>
      obtain rfl := (List.cons.inj joined).1
      exact ⟨others, readFront⟩

/-- A token whose quotes are escaped themselves is taken for the text of a string; the array made of
it has literals that stand for nothing. -/
theorem strings?_toArray_of_bare {token : String} {value : List CodeUnit}
    (valued : value? token = some value) (bare : Expression.isStringToken token = false) :
    (Literal.toArray token).strings? = none := by
  obtain ⟨units, read, closed⟩ := Option.bind_eq_some_iff.mp valued
  obtain ⟨inner, between, _⟩ := Option.bind_eq_some_iff.mp closed
  obtain ⟨others, rfl⟩ : ∃ others, units = quote :: others := by
    cases units with
    | nil => cases between
    | cons first others =>
      rw [between?] at between
      split at between
      · rename_i quotes
        exact ⟨others, by rw [quotes.1]⟩
      · cases between
  obtain ⟨head, tail, cut⟩ := List.exists_cons_of_ne_nil (List.splitOn_ne_nil ',' token.toList)
  obtain ⟨front, readHead⟩ := quote_of_splitOn read cut
  have filled : head ≠ [] := by
    rintro rfl
    cases readHead
  have inside := mem_trimmed (cut ▸ List.mem_cons_self : head ∈ token.toList.splitOn ',') filled
  rw [Literal.toArray, Literal.unquote, if_neg (by simp [bare]), splitAtCommas_eq,
    javaSplit_eq_trimmed]
  rw [Option.eq_none_iff_forall_ne_some]
  intro values all
  have each := ((strings?_quoted _ _).mp all).imp fun part value valued =>
    (⟨by simp [valued], valued⟩ : contents? part ≠ none ∧ contents? part = some value)
  exact ((List.forall₂_and_left ..).mp each).1 head inside (contents?_of_quote readHead)

/-- Of the commas of a string that is made of the values of parts, those between the values are
commas of the text; so these are all exactly if no value has one. -/
theorem count_eq_iff {parts : List (List Char)} {values : List (List CodeUnit)}
    (some : parts ≠ []) (length : parts.length = values.length)
    (apart : ∀ part ∈ parts, ',' ∉ part) :
    ([','].intercalate parts).count ',' = ([comma].intercalate values).count comma ↔
      ∀ value ∈ values, comma ∉ value := by
  have filled : values ≠ [] := by
    rintro rfl
    exact some (List.length_eq_zero_iff.mp length)
  have ofText := count_intercalate ',' parts some
  have ofValue := count_intercalate comma values filled
  have none : (parts.map (List.count ',')).sum = 0 := by
    simpa [List.sum_eq_zero_iff_forall_eq_nat, List.count_eq_zero] using apart
  have hidden : (values.map (List.count comma)).sum = 0 ↔ ∀ value ∈ values, comma ∉ value := by
    simp [List.sum_eq_zero_iff_forall_eq_nat, List.count_eq_zero]
  rw [← hidden]
  omega

/-- An array made of a string token stands for the values of the parts of the token, of which the
value of the token is made. -/
theorem strings?_toArray_quoted {text : String} {value : List CodeUnit}
    (valued : contents? text.toList = some value) :
    ∃ values, List.Forall₂ (fun part value => contents? part = some value) (text.toList.splitOn ',')
        values ∧ value = [comma].intercalate values ∧
      (Literal.toArray ("\"" ++ text ++ "\"")).strings? = some (trimmed values) := by
  have parted : [','].intercalate (text.toList.splitOn ',') = text.toList :=
    List.intercalate_splitOn ','
  rw [← parted, contents?_intercalate _ (List.splitOn_ne_nil ',' text.toList)] at valued
  obtain ⟨values, each, made⟩ := valued
  refine ⟨values, each, made, ?_⟩
  rw [Literal.toArray, unquote_quoted, splitAtCommas_eq, javaSplit_eq_trimmed, strings?_quoted]
  refine forall₂_trimmed each fun part value valued => ?_
  rw [Bool.eq_iff_iff, List.isEmpty_iff, List.isEmpty_iff, ← contents?_eq_nil_iff part, valued,
    Option.some.injEq]

/-- An array made of a string token stands for the parts of the token's value exactly if every comma
of the value is a comma of the token. -/
theorem strings?_toArray_quoted_iff {text : String} {value : List CodeUnit}
    (valued : contents? text.toList = some value) :
    (Literal.toArray ("\"" ++ text ++ "\"")).strings? = some (javaSplit comma value) ↔
      text.toList.count ',' = value.count comma := by
  have parted : [','].intercalate (text.toList.splitOn ',') = text.toList :=
    List.intercalate_splitOn ','
  have some := List.splitOn_ne_nil ',' text.toList
  obtain ⟨values, each, rfl, array⟩ := strings?_toArray_quoted valued
  have counted := count_eq_iff some each.length_eq fun _ => not_mem_of_mem_splitOn
  rw [parted] at counted
  rw [array, Option.some.injEq, counted]
  constructor
  · intro same value inside hidden
    have kept := mem_trimmed inside (List.ne_nil_of_mem hidden)
    rw [same] at kept
    exact not_mem_of_mem_javaSplit kept hidden
  · intro apart
    refine (javaSplit_intercalate comma values ?_ apart).symm
    rintro rfl
    exact some (List.forall₂_nil_right_iff.mp each)

/-- A field of a container kind splits the value of the literal that it is made with. -/
theorem strings?_field (kind : Kind) (container : kind.isContainer = true) (name token : String)
    (type : Option JavaType) {value : List CodeUnit} (valued : value? token = some value) :
    ∃ template field initializer, FieldTemplate.ofKind name kind = .ok template ∧
      template.fill (.literal token type) = .ok field ∧ field.initializer = some initializer ∧
      initializer.strings? = some (javaSplit comma value) := by
  have made : FieldTemplate.ofKind name kind =
      .ok ⟨name, .stringArray, .method "split" ["\",\""]⟩ := by
    cases kind with
    | list => rfl
    | array => rfl
    | set => rfl
    | _ => cases container
  have separator : (Expression.literal "\",\"" none).string? = some [comma] := by decide
  have operator : isOperator comma = false := by decide
  refine ⟨_, _, _, made, rfl, rfl, ?_⟩
  have receiver : (Expression.literal token type).string? = some value := valued
  simp [Conversion.build, Expression.strings?, receiver, separator, operator]

/-- For a string literal, the field that is made of it when literals are not put in place splits its
value at the commas; and the array that is put in place otherwise stands for the same strings
exactly if the quotes and all commas of the value are written as themselves. -/
theorem array_agrees_with_field_iff (token : String) (value : List CodeUnit)
    (valued : value? token = some value) :
    (∀ kind name type, kind.isContainer = true →
      ∃ template field initializer, FieldTemplate.ofKind name kind = .ok template ∧
        template.fill (.literal token type) = .ok field ∧ field.initializer = some initializer ∧
        initializer.strings? = some (javaSplit comma value)) ∧
      ((Literal.toArray token).strings? = some (javaSplit comma value) ↔
        Expression.isStringToken token = true ∧ token.toList.count ',' = value.count comma) := by
  refine ⟨fun kind name type container => strings?_field kind container name token type valued, ?_⟩
  by_cases quoted : Expression.isStringToken token = true
  · obtain ⟨text, rfl⟩ := eq_quoted_of_isStringToken quoted
    rw [value?_quoted] at valued
    have inner : ("\"" ++ text ++ "\"").toList.count ',' = text.toList.count ',' := by
      rw [toList_quoted]
      simp
    rw [strings?_toArray_quoted_iff valued, inner, and_iff_right quoted]
  · rw [strings?_toArray_of_bare valued (by simpa using quoted)]
    simp [quoted]

/-- A tab, an octal and a Unicode escape leave both lists equal; empty parts are kept in front and
left out at the end. -/
theorem array_agrees_with_field_on_escapes :
    let token := "\",\\t\\7,\\u0062,,\""
    let parts := [[], [0x9, 0x7], [0x62]]
    (Literal.toArray token).strings? = some parts ∧
      ∃ template field initializer, FieldTemplate.ofKind "f" .list = .ok template ∧
        template.fill (.literal token none) = .ok field ∧ field.initializer = some initializer ∧
        initializer.strings? = some parts := by
  obtain ⟨fields, agrees⟩ := array_agrees_with_field_iff "\",\\t\\7,\\u0062,,\""
    [0x2C, 0x9, 0x7, 0x2C, 0x62, 0x2C, 0x2C] (by decide)
  exact ⟨agrees.mpr (by decide), fields .list "f" none rfl⟩

/-- A comma that is written as an escape is a comma for the field, but not for the array. -/
theorem array_misses_escaped_comma :
    let token := "\"a\\u002cb\""
    let value := [0x61, 0x2C, 0x62]
    value? token = some value ∧ javaSplit comma value = [[0x61], [0x62]] ∧
      (∃ template field initializer, FieldTemplate.ofKind "f" .list = .ok template ∧
        template.fill (.literal token none) = .ok field ∧ field.initializer = some initializer ∧
        initializer.strings? = some [[0x61], [0x62]]) ∧
      (Literal.toArray token).strings? = some [value] ∧ [value] ≠ javaSplit comma value := by
  have valued : value? "\"a\\u002cb\"" = some [0x61, 0x2C, 0x62] := by decide
  refine ⟨valued, by decide, ?_, by decide, by decide⟩
  exact strings?_field .list rfl "f" _ none valued

end TypedDefaults
