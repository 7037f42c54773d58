import TypedDefaults.Literal.Conversion
import TypedDefaults.Text.Digit
import TypedDefaults.Text.Parts

/-!
# Options among words

A command takes options and positional words. A word that starts with a dash is
an option when it names one, in full or by an unambiguous beginning, possibly
with a value behind an equals sign; behind a word of two dashes alone all words
are arguments. Negative numbers and words with blanks are arguments too. The
words are cut into parts in order: options with their arguments, the positional
words, and words that nobody takes. A mistake is a part as well, and the last
one, since what stands in front of it has been acted on by then.
-/

namespace TypedDefaults.CommandLine

/-- How many arguments an option takes. -/
inductive Arity where
  | none
  | one
  | many
  deriving DecidableEq, Repr, Inhabited

/-- An option: its names, dashes included, the first one being its own, and its arguments. -/
structure OptionForm where
  names : List String
  arity : Arity
  deriving DecidableEq, Repr, Inhabited

/-- The name of an option. -/
def OptionForm.name (form : OptionForm) : String := form.names.headD ""

/-- What a command does with positional words: nothing, take at least one of them, or take the first
one with everything behind it. -/
inductive Positional where
  | none
  | atLeastOne
  | everything
  deriving DecidableEq, Repr, Inhabited

/-- A value attached to the word of an option: behind an equals sign, or behind its letter. -/
inductive Attached where
  | nothing
  | value (text : String)
  | letters (text : List Char)
  deriving DecidableEq, Repr, Inhabited

/-- What a word is. An option that names none of the known ones has no form. -/
inductive WordClass where
  | argument
  | separator
  | option (form : Option OptionForm) (attached : Attached)
  deriving DecidableEq, Repr, Inhabited

/-- A word and what it is. -/
structure Word where
  text : String
  wordClass : WordClass
  deriving DecidableEq, Repr, Inhabited

/-- What is wrong with a command line. -/
inductive UsageError where
  | ambiguous (word : String)
  | lacksArgument (name : String)
  | takesNoValue (name : String)
  | notANumber (word : String)
  | unknownCommand (word : String)
  | noCommand
  | noPaths
  | unrecognized (words : List String)
  deriving DecidableEq, Repr, Inhabited

/-- The text of an error. -/
def UsageError.message : UsageError → String
  | ambiguous word => "ambiguous option: " ++ word
  | lacksArgument name => "argument " ++ name ++ ": expected one argument"
  | takesNoValue name => "argument " ++ name ++ ": takes no value"
  | notANumber word => "invalid int value: " ++ word
  | unknownCommand word => "unknown command: " ++ word
  | noCommand => "a command is required"
  | noPaths => "paths are required"
  | unrecognized words => "unrecognized arguments: " ++ Text.join " " words

/-- The options with each of their names. -/
def namedForms (forms : List OptionForm) : List (String × OptionForm) :=
  forms.flatMap fun form => form.names.map fun name => (name, form)

/-- A word begins with another one. -/
def begins (beginning word : String) : Bool := beginning.toList.isPrefixOf word.toList

/-- The text in front of the first equals sign and the value behind it. -/
def cutValue (word : String) : String × Attached :=
  match Text.cutFirst? '=' word.toList with
  | some (before, after) => (String.ofList before, .value (String.ofList after))
  | none => (word, .nothing)

/-- What is attached to an option of a name by an equals sign. Behind a letter it is further
letters, as if the sign were not there. -/
def Attached.under (name : String) : Attached → Attached
  | value text => if begins "--" name || text.isEmpty then value text else letters text.toList
  | attached => attached

/-- The options that a word may abbreviate. -/
def abbreviated (forms : List OptionForm) (word : String) : List WordClass :=
  if begins "--" word then
    let (beginning, attached) := cutValue word
    (namedForms forms).filterMap fun (name, form) =>
      if begins beginning name then some (.option (some form) attached) else none
  else
    (namedForms forms).filterMap fun (name, form) =>
      if name.toList = word.toList.take 2 then
        some (.option (some form) (.letters (word.toList.drop 2)))
      else if begins word name then some (.option (some form) .nothing)
      else none

/-- A dash and a number, with digits of any script. -/
def isNegativeNumber (word : String) : Bool :=
  match Literal.withoutFinalLineFeed word.toList with
  | '-' :: unsigned =>
    match Literal.leadingDigits unsigned with
    | (digits, []) => !digits.isEmpty
    | (_, '.' :: fraction) => !fraction.isEmpty && fraction.all Text.isDigit
    | _ => false
  | _ => false

/-- What a word is that is not behind a separator. -/
def classifyWord (forms : List OptionForm) (word : String) : Except UsageError WordClass :=
  let exact (name : String) : Option OptionForm := (namedForms forms).lookup name
  if !begins "-" word then .ok .argument
  else
    match exact word, word.length, exact (cutValue word).1 with
    | some form, _, _ => .ok (.option (some form) .nothing)
    | none, 1, _ => .ok .argument
    | none, _, some form =>
      let (name, attached) := cutValue word
      .ok (.option (some form) (attached.under name))
    | none, _, none =>
      match abbreviated forms word with
      | [only] => .ok only
      | _ :: _ => .error (.ambiguous word)
      | [] =>
        if isNegativeNumber word || word.toList.contains ' ' then .ok .argument
        else .ok (.option none .nothing)

/-- What the words of a command are. -/
def classifyWords (forms : List OptionForm) : List String → Except UsageError (List Word)
  | [] => .ok []
  | word :: rest =>
    if word = "--" then
      .ok (⟨word, .separator⟩ :: rest.map fun behind => ⟨behind, .argument⟩)
    else
      match classifyWord forms word, classifyWords forms rest with
      | .error error, _ => .error error
      | .ok _, .error error => .error error
      | .ok wordClass, .ok others => .ok (⟨word, wordClass⟩ :: others)

/-- A part of a command line. -/
inductive Part where
  | option (name : String) (arguments : List String)
  | positional (words : List String)
  | extra (word : String)
  | wrong (error : UsageError)
  deriving DecidableEq, Repr, Inhabited

/-- The word is an option. -/
def Word.isOption (word : Word) : Bool :=
  match word.wordClass with
  | .option _ _ => true
  | _ => false

/-- The word is an argument. -/
def Word.isArgument (word : Word) : Bool := word.wordClass = .argument

/-- The parts of letters behind a letter that takes no argument: further such letters. A letter that
names none is a mistake. -/
def letterParts (forms : List OptionForm) : List Char → List Part
  | [] => []
  | letter :: rest =>
    let name := String.ofList ['-', letter]
    match (namedForms forms).lookup name with
    | some form => .option form.name [] :: letterParts forms rest
    | none => [.wrong (.takesNoValue name)]

/-- The arguments that a value attached to an option gives it. Two dashes alone give none. -/
def attachedArguments (value : String) : List String := [value].erase "--"

/-- Parts in front of which a mistake among them stands. -/
def mistakesFirst (parts : List Part) : List Part :=
  match parts.find? fun part => part matches .wrong _ with
  | some wrong => [wrong]
  | none => parts

/-- The parts of a run of words that are no options: the positional words if they are taken. -/
def runParts (positional : Positional) (run : List Word) : List Part :=
  if positional ≠ .none && run.any Word.isArgument then
    [.positional ((run.map Word.text).erase "--")]
  else run.map fun word => .extra word.text

/-- The parts of classified words. `positional` is what is still to be taken; `budget` bounds the
number of parts. -/
def parts (forms : List OptionForm) (positional : Positional) (budget : Nat)
    (words : List Word) : List Part :=
  match budget, words with
  | 0, _ => []
  | _, [] => []
  | budget + 1, first :: rest =>
    match first.wordClass with
    | .option none _ => .extra first.text :: parts forms positional budget rest
    | .option (some form) attached =>
      match form.arity, attached with
      | .none, .nothing => .option form.name [] :: parts forms positional budget rest
      | .none, .value _ => [.wrong (.takesNoValue form.name)]
      | .none, .letters letters =>
        mistakesFirst (.option form.name [] :: letterParts forms letters) ++
          parts forms positional budget rest
      | _, .value value =>
        .option form.name (attachedArguments value) :: parts forms positional budget rest
      | _, .letters letters =>
        .option form.name (attachedArguments (String.ofList letters)) ::
          parts forms positional budget rest
      | .one, .nothing =>
        match rest with
        | next :: others =>
          if next.isArgument then
            .option form.name [next.text] :: parts forms positional budget others
          else [.wrong (.lacksArgument form.name)]
        | [] => [.wrong (.lacksArgument form.name)]
      | .many, .nothing =>
        .option form.name ((rest.takeWhile Word.isArgument).map Word.text) ::
          parts forms positional budget (rest.dropWhile Word.isArgument)
    | _ =>
      if positional = .everything && (first :: rest).any Word.isArgument then
        [.positional ((first :: rest).map Word.text)]
      else
        let run := (first :: rest).takeWhile fun word => !word.isOption
        let others := (first :: rest).dropWhile fun word => !word.isOption
        let left := if run.any Word.isArgument then .none else positional
        runParts positional run ++ parts forms left budget others

/-- The parts of the words of a command. -/
def partsOf (forms : List OptionForm) (positional : Positional) (words : List String) :
    Except UsageError (List Part) :=
  (classifyWords forms words).map fun classified =>
    parts forms positional (words.length + 1) classified

end TypedDefaults.CommandLine
