import TypedDefaults.Toml.Scalar
import TypedDefaults.Text.Parts

/-!
# Reading TOML documents

A document is a sequence of statements, one a line: a name with a value, the
header of a table, or the header of a further table of an array. Every name is
set once. Tables written out in one value are closed, and so are tables that a
header or a dotted name opened: no header may open them again. All recursion is
bounded by the length of the text, since each step takes a character of it.
-/

namespace TypedDefaults.Toml

/-- A name of one or more parts. -/
abbrev Path := List String

/-- Tables and arrays that are closed with everything in them, and tables that no header may
open. -/
structure Closed where
  written : List Path
  opened : List Path
  deriving Inhabited

namespace Closed

/-- Nothing closed. -/
def none : Closed := ⟨[], []⟩

/-- The path leads to or into something written out in one value. -/
def isWritten (closed : Closed) (path : Path) : Bool :=
  closed.written.any fun other => other.isPrefixOf path

/-- The path leads to a table that was opened. -/
def isOpened (closed : Closed) (path : Path) : Bool := closed.opened.contains path

/-- Closes what a path leads to. -/
def write (closed : Closed) (path : Path) : Closed :=
  { closed with written := path :: closed.written }

/-- Remembers that a table was opened. -/
def «open» (closed : Closed) (path : Path) : Closed :=
  { closed with opened := path :: closed.opened }

/-- Forgets everything about a path and below it. -/
def forget (closed : Closed) (path : Path) : Closed :=
  { written := closed.written.filter fun other => !path.isPrefixOf other
    opened := closed.opened.filter fun other => !path.isPrefixOf other }

end Closed

/-- A character of a name without quotes. -/
def isBare (character : Char) : Bool :=
  character.isAlphanum || character = '-' || character = '_'

/-- One part of a name. -/
def namePart (text : List Char) : Reading String :=
  match lineString? text with
  | some read => read
  | none =>
    let bare := text.takeWhile isBare
    if bare.isEmpty then malformed else .ok (String.ofList bare, text.dropWhile isBare)

/-- A name: parts with points between them, blanks around the points. -/
def name (budget : Nat) (text : List Char) : Reading Path :=
  match budget with
  | 0 => malformed
  | budget + 1 =>
    match namePart text with
    | .error failure => .error failure
    | .ok (part, rest) =>
      match skipBlanks rest with
      | '.' :: rest =>
        (name budget (skipBlanks rest)).map fun (path, rest) => (part :: path, rest)
      | rest => .ok ([part], rest)

/-- A name with the equals sign behind it. -/
def nameAndSign (text : List Char) : Reading Path :=
  match name (text.length + 1) text with
  | .error failure => .error failure
  | .ok (path, '=' :: rest) => .ok (path, skipBlanks rest)
  | .ok _ => malformed

/-- The text behind a comment, if one starts here. -/
def skipComment : List Char → Except Failure (List Char)
  | '#' :: rest =>
    if (rest.takeWhile (· ≠ '\n')).any isControl then malformed
    else .ok (rest.dropWhile (· ≠ '\n'))
  | text => .ok text

/-- Drops space, line feeds and comments. -/
def skipSpaceAndComments (budget : Nat) (text : List Char) : Except Failure (List Char) :=
  match budget with
  | 0 => .ok text
  | budget + 1 =>
    match text.dropWhile isSpace with
    | '#' :: rest =>
      match skipComment ('#' :: rest) with
      | .error failure => .error failure
      | .ok rest => skipSpaceAndComments budget rest
    | rest => .ok rest

/-- Adds a value to a table written in one line. -/
def addInline (path : Path) (value : Toml) (fields : Fields) (closed : Closed) :
    Except Failure Fields :=
  if closed.isWritten path then malformed
  else
    match changeAt false (addField (path.getLast?.getD "") value) path.dropLast fields with
    | some fields => .ok fields
    | none => malformed

mutual

/-- A value. -/
def value (budget : Nat) (text : List Char) : Reading Toml :=
  match budget, text with
  | 0, _ => malformed
  | budget + 1, '[' :: rest =>
    match skipSpaceAndComments rest.length rest with
    | .error failure => .error failure
    | .ok (']' :: rest) => .ok (array [], rest)
    | .ok rest => (elements budget rest).map fun (found, rest) => (array found, rest)
  | budget + 1, '\x7b' :: rest =>
    match skipBlanks rest with
    | '\x7d' :: rest => .ok (table [], rest)
    | rest => (entries budget [] .none rest).map fun (fields, rest) => (table fields, rest)
  | _ + 1, text => scalar text

/-- The elements of an array from one element on, up to its end. -/
def elements (budget : Nat) (text : List Char) : Reading (List Toml) :=
  match budget with
  | 0 => malformed
  | budget + 1 =>
    match value budget text with
    | .error failure => .error failure
    | .ok (first, rest) =>
      match skipSpaceAndComments rest.length rest with
      | .error failure => .error failure
      | .ok (']' :: rest) => .ok ([first], rest)
      | .ok (',' :: rest) =>
        match skipSpaceAndComments rest.length rest with
        | .error failure => .error failure
        | .ok (']' :: rest) => .ok ([first], rest)
        | .ok rest => (elements budget rest).map fun (others, rest) => (first :: others, rest)
      | .ok _ => malformed

/-- The entries of a table in one line from one entry on, up to its end. -/
def entries (budget : Nat) (fields : Fields) (closed : Closed) (text : List Char) :
    Reading Fields :=
  match budget with
  | 0 => malformed
  | budget + 1 =>
    match nameAndSign text with
    | .error failure => .error failure
    | .ok (path, rest) =>
      match value budget rest with
      | .error failure => .error failure
      | .ok (found, rest) =>
        match addInline path found fields closed, skipBlanks rest with
        | .error failure, _ => .error failure
        | .ok fields, '\x7d' :: rest => .ok (fields, rest)
        | .ok fields, ',' :: rest =>
          let closed := if found.isContainer then closed.write path else closed
          entries budget fields closed (skipBlanks rest)
        | .ok _, _ => malformed

end

/-- A document read so far: its fields, the table that the last header opened, what is closed, and
the tables on the way of dotted names since that header, which close with the next one. -/
structure Draft where
  fields : Fields
  header : Path
  closed : Closed
  pending : List Path
  deriving Inhabited

namespace Draft

/-- Nothing read. -/
def empty : Draft := ⟨[], [], .none, []⟩

/-- Closes the pending tables. -/
def settle (draft : Draft) : Draft :=
  { draft with closed := draft.pending.foldl Closed.open draft.closed, pending := [] }

/-- The header of a table. -/
def openTable (draft : Draft) (path : Path) : Except Failure Draft :=
  if draft.closed.isOpened path || draft.closed.isWritten path then malformed
  else
    match changeAt true some path draft.fields with
    | some fields => .ok { draft with fields, header := path, closed := draft.closed.open path }
    | none => malformed

/-- The header of a further table of an array. -/
def openElement (draft : Draft) (path : Path) : Except Failure Draft :=
  if draft.closed.isWritten path then malformed
  else
    match changeAt true (addTable (path.getLast?.getD "")) path.dropLast draft.fields with
    | some fields =>
      .ok { draft with fields, header := path, closed := (draft.closed.forget path).open path }
    | none => malformed

/-- The tables on the way of a dotted name, from the header on. -/
def onTheWay (header : Path) : Path → List Path
  | [] => []
  | [_] => []
  | part :: next :: rest => (header ++ [part]) :: onTheWay (header ++ [part]) (next :: rest)

/-- A name with a value. -/
def set (draft : Draft) (path : Path) (value : Toml) : Except Failure Draft :=
  let way := onTheWay draft.header path
  let parent := draft.header ++ path.dropLast
  if way.any draft.closed.isOpened || draft.closed.isWritten parent then malformed
  else
    match changeAt true (addField (path.getLast?.getD "") value) parent draft.fields with
    | some fields =>
      .ok { draft with
        fields
        closed :=
          if value.isContainer then draft.closed.write (draft.header ++ path) else draft.closed
        pending := draft.pending ++ way }
    | none => malformed

end Draft

/-- The header of a table or of an element of an array of tables. -/
def header (draft : Draft) (text : List Char) : Reading Draft :=
  let settled := draft.settle
  let opening := dropBeginning? "[[" text
  let inner := skipBlanks (opening.getD (text.drop 1))
  match name (inner.length + 1) inner with
  | .error failure => .error failure
  | .ok (path, rest) =>
    match opening.isSome, rest with
    | true, ']' :: ']' :: rest => (settled.openElement path).map fun draft => (draft, rest)
    | false, ']' :: rest => (settled.openTable path).map fun draft => (draft, rest)
    | _, _ => malformed

/-- A name with a value. -/
def assignment (draft : Draft) (text : List Char) : Reading Draft :=
  match nameAndSign text with
  | .error failure => .error failure
  | .ok (path, rest) =>
    match value (rest.length + 1) rest with
    | .error failure => .error failure
    | .ok (found, rest) => (draft.set path found).map fun draft => (draft, rest)

/-- One statement, which may be empty, without the comment behind it. -/
def statement (draft : Draft) (text : List Char) : Reading Draft :=
  match text with
  | [] => .ok (draft, [])
  | first :: _ =>
    if first = '[' then header draft text
    else if first = '#' || first = '\n' then .ok (draft, text)
    else assignment draft text

/-- The statements of a text, one a line. -/
def statements (budget : Nat) (draft : Draft) (text : List Char) : Except Failure Draft :=
  match budget with
  | 0 => .ok draft
  | budget + 1 =>
    match statement draft (skipBlanks text) with
    | .error failure => .error failure
    | .ok (draft, rest) =>
      match skipComment (skipBlanks rest) with
      | .error failure => .error failure
      | .ok [] => .ok draft
      | .ok ('\n' :: rest) => statements budget draft rest
      | .ok _ => malformed

/-- Reads a document. -/
def read (text : String) : Except Failure Fields :=
  let characters := Text.unifyLineEndings text.toList
  (statements (characters.length + 1) .empty characters).map Draft.fields

end TypedDefaults.Toml
