import PiecewiseLang.Terminal.Columns
import PiecewiseLang.Text.Blank

/-! Tables on a terminal: a header, a rule, and rows in columns as wide as their widest
cell. A cell of several lines makes its row as high. -/
namespace PiecewiseLang.Terminal

inductive Alignment where
  | left | right
deriving DecidableEq, Repr

structure Column where
  title : String
  alignment : Alignment

/-- The lines of a cell and the columns it asks for. Tabs do not count for the latter. -/
structure Cell where
  lines : List (List Char)
  width : Nat

structure Table where
  header : List Column
  rows : List (List Cell)

namespace Cell

/-- The cell of a text. -/
def ofText (s : String) : Cell :=
  let pieces := Text.splitAt Text.isLineBreak (withoutControls s.toList)
  ⟨displayedLines s, (pieces.map columns).foldl Nat.max 0⟩

end Cell

namespace Table

/-- The widths of the columns, given rows that have a cell for each. -/
def widths (rows : List (List Cell)) : List Nat → List Nat :=
  rows.foldr fun row widths => List.zipWith (fun c width => Nat.max c.width width) row widths

/-- A line without as many of the blanks at its end as it has characters too many. -/
def cropBlanks (width : Nat) (line : List Char) : List Char :=
  let blanks := (line.reverse.takeWhile Text.isBlank).length
  line.take (line.length - Nat.min blanks (line.length - width))

/-- A line with blanks up to the width. They go behind the line where those in front have
been swallowed by a joiner. -/
def fit (alignment : Alignment) (width : Nat) (line : List Char) : List Char :=
  let line := cropBlanks width line
  let blanks := List.replicate (width - columns line) ' '
  let padded := match alignment with
    | .left => line ++ blanks
    | .right => blanks ++ line
  padded ++ List.replicate (width - columns padded) ' '

/-- One line of a row: the cells' lines of the given number, each with a blank on either
side, with blanks between and around them. -/
def rowLine (layout : List (Alignment × Nat)) (row : List Cell) (number : Nat) : List Char :=
  let cells := List.zipWith (fun (alignment, width) c =>
    ' ' :: fit alignment width (c.lines.getD number []) ++ [' ']) layout row
  ' ' :: List.intercalate [' '] cells ++ [' ']

def rowLines (layout : List (Alignment × Nat)) (row : List Cell) : List (List Char) :=
  let height := (row.map (·.lines.length)).foldl Nat.max 0
  (List.range height).map (rowLine layout row)

/-- The table as lines, each ended by a line feed. -/
def render (t : Table) : String :=
  let header := t.header.map fun column => Cell.ofText column.title
  let widths := widths (header :: t.rows) (t.header.map fun _ => 0)
  let layout := List.zip (t.header.map Column.alignment) widths
  let total := 2 + widths.foldr (· + 2 + ·) 0 + (widths.length - 1)
  let blank := List.replicate total ' '
  let rule := ' ' :: List.replicate (total - 2) '─' ++ [' ']
  let lines := [blank] ++ rowLines layout header ++ [rule] ++
    t.rows.flatMap (rowLines layout) ++ [blank]
  String.ofList (lines.flatMap (· ++ ['\n']))

end Table

end PiecewiseLang.Terminal
