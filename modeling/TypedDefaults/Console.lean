import TypedDefaults.Message
import TypedDefaults.Text.Blank
import TypedDefaults.Text.Parts

/-!
# The console

What a command shows: messages, printed text and a table. A console writes the
level of a message in a column of its own and leaves out the marks around paths;
the lines of a long message stand under its first one. The columns of a table are
as wide as their widest cell. A console may be bound to an output of its own;
until then it writes to the standard output.
-/

namespace TypedDefaults

/-- A table with a title. -/
structure Table where
  title : String
  columns : List String
  rows : List (List String)
  deriving DecidableEq, Repr, Inhabited

/-- Something shown to the user. -/
inductive Shown where
  | message (message : Message)
  | printed (text : String)
  | table (table : Table)
  deriving DecidableEq, Repr, Inhabited

namespace Console

/-- The marks around a path. -/
def marks : List String := ["[path]", "[/path]"]

/-- The text without the occurrences of a mark. -/
def without (text mark : String) : String :=
  String.ofList (Text.parts mark.toList text.toList).flatten

/-- A character that only moves the cursor: bell, backspace, vertical tab, form feed and carriage
return. Consoles do not show them. -/
def movesCursor (character : Char) : Bool := [0x7, 0x8, 0xB, 0xC, 0xD].contains character.toNat

/-- The text without marks and characters that move the cursor. -/
def plain (text : String) : String :=
  String.ofList ((marks.foldl without text).toList.filter fun character => !movesCursor character)

/-- A line without blanks at its end. -/
def trimmedEnd (line : List Char) : String :=
  String.ofList (line.reverse.dropWhile Text.isBlank).reverse

/-- The text filled up with blanks to a width. -/
def padded (width : Nat) (text : List Char) : List Char :=
  text ++ List.replicate (width - text.length) ' '

/-- The width of the column for levels. -/
def levelWidth : Nat := 8

/-- The lines of a text. -/
def textLines (text : String) : List (List Char) := Text.parts ['\n'] (plain text).toList

/-- The lines for a message: its level stands in front of the first one. -/
def messageLines (message : Message) : List String :=
  match textLines message.line with
  | [] => []
  | first :: others =>
    trimmedEnd (padded levelWidth message.level.word.toList ++ ' ' :: first) ::
      others.map fun line => trimmedEnd (padded (levelWidth + 1) [] ++ line)

/-- The lines for a printed text. -/
def printedLines (text : String) : List String := (textLines text).map trimmedEnd

/-- The width of the standard output. -/
def standardWidth : Nat := 80

/-- The widths of columns that rows need, given the widths that other rows need. -/
def widen : List Nat → List String → List Nat
  | [], cells => cells.map String.length
  | widths, [] => widths
  | width :: widths, cell :: cells => max width cell.length :: widen widths cells

/-- A row with every cell filled up to the width of its column. -/
def rowLine (widths : List Nat) (cells : List String) : String :=
  trimmedEnd (Text.join "  " ((cells.zip widths).map fun (cell, width) =>
    String.ofList (padded width cell.toList))).toList

/-- The lines of a table: its title, the names of its columns, and its rows. -/
def tableLines (table : Table) : List String :=
  let rows := table.columns :: table.rows
  table.title :: rows.map (rowLine (rows.foldl widen []))

end Console

/-- The lines that are shown for something. -/
def Shown.lines : Shown → List String
  | .message sent => Console.messageLines sent
  | .printed text => Text.lines text
  | .table shown => Console.tableLines shown

/-- A console: the width of the output that it is bound to, or the standard output. -/
structure Console where
  bound : Option Nat
  deriving DecidableEq, Repr, Inhabited

/-- The width of the output of a console. -/
def Console.width (console : Console) : Nat := console.bound.getD Console.standardWidth

end TypedDefaults
