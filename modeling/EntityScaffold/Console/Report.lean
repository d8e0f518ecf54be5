import EntityScaffold.Console.Markup
import EntityScaffold.Console.Wrap
import EntityScaffold.Path
import EntityScaffold.Value.Printed

/-
What is reported to a reader, on lines of two hundred cells: messages, rules with a title, lists of
written files, and tables with two columns.
-/

namespace EntityScaffold.Console

def lineWidth : Nat := 200

def lineFeed : CodePoint := CodePoint.ofChar '\n'

def unlines (lines : List CodeText) : CodeText := lines.flatMap (· ++ [lineFeed])

/-- A text on as many lines as it needs. -/
def paragraph (text : CodeText) : CodeText :=
  unlines ((layOut ⟨lineWidth, .fold, true⟩ text).map (truncate .fold lineWidth))

def printMarkup (markup : CodeText) : Except MarkupError CodeText :=
  (plainText markup).map paragraph

def message (style : String) (content : CodeText) : Except MarkupError CodeText :=
  printMarkup (styled style (Markup.escape content))

def success : CodeText → Except MarkupError CodeText := message "bold green"

def error : CodeText → Except MarkupError CodeText := message "bold red"

def warning : CodeText → Except MarkupError CodeText := message "bold yellow"

def bar (length : Nat) (char : Char) : CodeText := List.replicate length (CodePoint.ofChar char)

/-- A line across the console, with a title in its middle. A title that is too long is cut. -/
def rule (title : CodeText) : CodeText :=
  let blank := CodePoint.ofChar ' '
  let title := expandTabs (title.map fun point => if point = lineFeed then blank else point)
  let shown := truncate .ellipsis (lineWidth - 4) title
  let side := (lineWidth - width shown) / 2
  let left := bar (side - 1) '─'
  let right := bar (lineWidth - side + 1 - width shown) '─'
  fit lineWidth (left ++ blank :: shown ++ blank :: right)

/-- The announcement of a run: a rule between empty lines. -/
def header (title : CodeText) : Except MarkupError CodeText := do
  let blank := CodePoint.ofChar ' '
  let shown ← plainText (styled "bold bright_green" (blank :: Markup.escape title ++ [blank]))
  return lineFeed :: paragraph (rule shown) ++ [lineFeed]

/-- One line for each written file, named as seen from a directory. -/
def writtenFiles (paths : List String) (root : String) : Except MarkupError CodeText := do
  let created := CodeText.ofString "  " ++ styled "green" (CodeText.ofString "created") ++
    CodeText.ofString " "
  let lines ← paths.mapM fun path =>
    printMarkup (created ++ Markup.escape (CodeText.ofString (Path.relativeText path root)))
  return lines.flatten

/-- The characters that end a line when a text is measured. -/
def endsLine (point : CodePoint) : Bool :=
  [0x0A, 0x0B, 0x0C, 0x0D, 0x1C, 0x1D, 0x1E, 0x85, 0x2028, 0x2029].contains point.value

/-- The width of a column with some cells, a space on either side of a cell included. -/
def columnWidth (texts : List CodeText) : Nat :=
  let widest := texts.flatMap fun text => (Text.splitWhere endsLine text).map width
  min (lineWidth - 3) (widest.foldl max 0 + 2)

/-- The lines of a cell, each filled up to the width of its column. A column that is no wider than
the blanks at its sides shows nothing. -/
def cellLines (wraps : Bool) (columnWidth : Nat) (text : CodeText) : List CodeText :=
  let room := columnWidth - 2
  if room = 0 then []
  else (layOut ⟨room, .ellipsis, wraps⟩ text).map fun line =>
    spaces 1 ++ fit room (truncate .ellipsis room line) ++ spaces 1

/-- A row of a table: its cells side by side, the shorter one filled with blank lines. -/
def row (edge : Char) (left right : Nat) (first second : List CodeText) : List CodeText :=
  let height := max first.length second.length
  let line (cell : List CodeText) (size : Nat) (index : Nat) := (cell[index]?).getD (spaces size)
  let edge := bar 1 edge
  (List.range height).map fun index =>
    edge ++ line first left index ++ edge ++ line second right index ++ edge

/-- A horizontal line of a table. -/
def border (start middle crossing stop : Char) (left right : Nat) : CodeText :=
  bar 1 start ++ bar left middle ++ bar 1 crossing ++ bar right middle ++ bar 1 stop

def center (room : Nat) (text : CodeText) : CodeText :=
  let shown := truncate .fold room (Text.trimEnd CodePoint.isBlank text)
  fit room (spaces ((room - width shown) / 2) ++ shown)

/-- The title of a table, in the middle of lines as wide as the table. -/
def tableTitle (room : Nat) (title : CodeText) : List CodeText :=
  (layOut ⟨room, .fold, true⟩ title).map (center room)

inductive TableFault where
  | unprintable (error : MarkupError)
  | noText (fault : Value.TextFault)
  /-- A row whose name is a value of a kind that names nothing. -/
  | noName (kind : String)
  deriving DecidableEq

/-- The cells of a row, as marked-up text. A row may be without a name. -/
def rowTexts (entry : Value × Value) : Except TableFault (CodeText × CodeText) := do
  let text ← (entry.2.shown []).mapError .noText
  match entry.1 with
  | .text name => return (name, text)
  | .null => return ([], text)
  | other => throw (.noName other.kindName)

/-- A table with one row for each entry. Names and values are marked-up text. -/
def summaryTable (entries : List (Value × Value)) (title : CodeText) :
    Except TableFault CodeText := do
  let texts ← entries.mapM rowTexts
  (textTable texts title).mapError .unprintable
where
  textTable (texts : List (CodeText × CodeText)) (title : CodeText) :
      Except MarkupError CodeText := do
    let names ← texts.mapM fun entry => plainText entry.1
    let values ← texts.mapM fun entry => plainText entry.2
    let itemHeading := CodeText.ofString "Item"
    let valueHeading := CodeText.ofString "Value"
    let left := columnWidth (itemHeading :: names)
    let right := min (columnWidth (valueHeading :: values)) (lineWidth - 3 - left)
    let titleLines ←
      if title = [] then pure [] else (plainText title).map (tableTitle (left + right + 3))
    let rowOf (edge : Char) (cells : CodeText × CodeText) :=
      row edge left right (cellLines false left cells.1) (cellLines true right cells.2)
    return unlines (
      titleLines ++
      [border '┏' '━' '┳' '┓' left right] ++
      rowOf '┃' (itemHeading, valueHeading) ++
      [border '┡' '━' '╇' '┩' left right] ++
      (names.zip values).flatMap (rowOf '│') ++
      [border '└' '─' '┴' '┘' left right]) ++ [lineFeed]

end EntityScaffold.Console
