import LeaseBook.Text.Line
import LeaseBook.Text.Markup
import LeaseBook.Text.Terminal
import LeaseBook.Text.Wrap

/-!
Text and tables for reading on a terminal. A table has a title above it, and maybe a frame with the
names of its columns. Every column is as wide as its widest cell, unless the table would be too
wide: then the widest columns give way, and what does not fit into their cells is cut off. Text,
titles and cells hold markup; what it means is up to the terminal.
-/

namespace LeaseBook

def onTerminal (width : Nat) (s : String) : String :=
  let lines := (Text.wrap .fold width (Text.visible s)).map (Text.shorten .fold width)
  String.join (lines.map fun line => String.ofList line ++ "\n")

/-- A terminal: its width, and what it shows of a text with markup. Text whose markup is wrong is not
shown. -/
structure Terminal where
  width : Nat
  shown? : String → Option String

namespace Terminal

/-- A terminal that knows tags and the pictures of `Text.pictures`. -/
def plain (width : Nat) : Terminal := ⟨width, Text.shown?⟩

def print? (t : Terminal) (s : String) : Option String := (t.shown? s).map (onTerminal t.width)

end Terminal

/-- A column: its name, and whether its cells end in a line instead of starting in one. -/
structure Column where
  name : String
  isRight : Bool

/-- A table. Without a frame it does not show the names of its columns. -/
structure Table where
  title : String
  columns : List Column
  isFramed : Bool
  rows : List (List String)

namespace Table

def measure (s : String) : Nat :=
  ((Text.lines (Text.visible s)).map Text.cellCount).foldl max 0

def frameWidth (t : Table) : Nat := if t.isFramed then t.columns.length + 1 else 0

/-- The widths that the columns of some rows need, with a blank on both sides of each cell. -/
def needed (count : Nat) (rows : List (List String)) : List Nat :=
  (List.range count).map fun i => (rows.map fun row => measure (row.getD i "")).foldl max 0 + 2

/-- The nearest whole number to a quotient, the even one of two. -/
def roundedQuotient (n d : Nat) : Nat :=
  let low := n / d
  if 2 * (n % d) < d ∨ (2 * (n % d) = d ∧ low % 2 = 0) then low else low + 1

/-- Takes `excess` cells off the widths equal to `widest`, in equal parts, of which none is greater
than `most`. `sharers` counts these widths. -/
def share (widest most : Nat) : Nat → Nat → List Nat → List Nat
  | _, _, [] => []
  | excess, sharers, width :: rest =>
    if width = widest then
      let part := min most (roundedQuotient excess sharers)
      (width - part) :: share widest most (excess - part) (sharers - 1) rest
    else width :: share widest most excess sharers rest

def total (widths : List Nat) : Nat := widths.foldl (· + ·) 0

/-- Widths that are at most `room` in all: the widest give way first. With each step at least one
more width becomes the widest, or enough is taken off. -/
def fit (room : Nat) : Nat → List Nat → List Nat
  | 0, widths => widths
  | fuel + 1, widths =>
    if total widths ≤ room then widths
    else
      let widest := widths.foldl max 0
      let second := (widths.filter (· ≠ widest)).foldl max 0
      let excess := total widths - room
      fit room fuel
        (share widest (min excess (widest - second)) excess (widths.count widest) widths)

def widths (width : Nat) (t : Table) : List Nat :=
  let room := width - t.frameWidth
  let head := if t.isFramed then [t.columns.map Column.name] else []
  fit room (t.columns.length + 1) ((needed t.columns.length (head ++ t.rows)).map (min room))

def blanks (count : Nat) : List Char := List.replicate count ' '

/-- A line of a cell in the width of its column. A joiner at the end of the line takes the first
blank behind it, so the line is fitted once more when it has its blanks. -/
def align (isRight : Bool) (width : Nat) (line : List Char) : List Char :=
  let kept := if isRight then Text.dropEndWhile Text.isBlank line else line
  let shown := Text.shorten .ellipsis width kept
  let placed :=
    if isRight then blanks (width - Text.cellCount shown) ++ shown else Text.padEnd width shown
  Text.padEnd width (Text.shorten .fold width placed)

def cellLines (column : Column) (width : Nat) (s : String) : List (List Char) :=
  (Text.wrap .ellipsis (width - 2) (Text.visible s)).map fun line =>
    ' ' :: align column.isRight (width - 2) line ++ [' ']

/-- The lines of a row: each has one line of every cell, with `bar` around them. -/
def rowLines (bar : List Char) (columns : List (Column × Nat)) (cells : List String) :
    List (List Char) :=
  let shown := List.zipWith (fun column cell => (column.2, cellLines column.1 column.2 cell))
    columns cells
  let height := (shown.map fun cell => cell.2.length).foldl max 0
  (List.range height).map fun i =>
    let parts := shown.map fun cell => cell.2.getD i (blanks cell.1)
    bar ++ Text.joinWith bar parts ++ bar

/-- A line of a frame between two rows: its left end, its stroke, what joins it with the lines
between columns, and its right end. -/
def ruler (left stroke joint right : Char) (widths : List Nat) : List Char :=
  left :: (Text.joinWith [joint] (widths.map fun width => List.replicate width stroke) ++ [right])

def centered (width : Nat) (line : List Char) : List Char :=
  let shown := Text.shorten .fold width (Text.dropEndWhile Text.isBlank line)
  let gap := width - Text.cellCount shown
  blanks (gap / 2) ++ shown ++ blanks (gap - gap / 2)

def lines (width : Nat) (t : Table) : List (List Char) :=
  let widths := t.widths width
  let columns := t.columns.zip widths
  let whole := total widths + t.frameWidth
  let title := (Text.wrap .fold whole (Text.visible t.title)).map (centered whole)
  if t.isFramed then
    title ++ [ruler '┏' '━' '┳' '┓' widths] ++
      rowLines ['┃'] columns (t.columns.map Column.name) ++ [ruler '┡' '━' '╇' '┩' widths] ++
      t.rows.flatMap (rowLines ['│'] columns) ++ [ruler '└' '─' '┴' '┘' widths]
  else title ++ t.rows.flatMap (rowLines [] columns)

def text (width : Nat) (t : Table) : String :=
  String.join ((t.lines width).map fun line => String.ofList line ++ "\n")

def shown? (terminal : Terminal) (t : Table) : Option Table := do
  let title ← terminal.shown? t.title
  let rows ← t.rows.mapM fun row => row.mapM terminal.shown?
  return { t with title := title, rows := rows }

def print? (terminal : Terminal) (t : Table) : Option String :=
  (t.shown? terminal).map (text terminal.width)

end Table
end LeaseBook
