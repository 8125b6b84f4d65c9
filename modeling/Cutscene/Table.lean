import Cutscene.Text.Wrapped

/-!
Tables with a frame of lines.

A column is as wide as its widest entry, its heading included, and every entry has a space on either
side. The title stands centred above the frame. Widths are counted in cells of the screen, not in
characters, and an entry of several lines makes its row as high.
-/

namespace Cutscene

/-- The heading of a column, and the side that its entries stand on. -/
structure Column where
  heading : Text
  /-- The entries, the heading too, stand to the right and not to the left. -/
  toRight : Bool
deriving DecidableEq, Repr

/-- Rows of entries under the headings of columns. -/
structure Table where
  title : Text
  columns : List Column
  rows : List (List Text)
deriving DecidableEq, Repr

namespace Table

def entries (t : Table) : List (List Text) := t.columns.map Column.heading :: t.rows

def widthAt (t : Table) (column : Nat) : Nat :=
  (t.entries.map fun row => Text.widestLine (row.getD column [])).foldl max 0

def widths (t : Table) : List Nat := (List.range t.columns.length).map t.widthAt

/-- A line of an entry, filled with spaces to the width of its column. -/
def fill (column : Column) (width : Nat) (line : Text) : Text :=
  let spaces := Text.padding width line
  ' ' :: (if column.toRight then spaces ++ line else line ++ spaces) ++ [' ']

def rule (t : Table) (left middle right : Char) : Text :=
  left :: [middle].intercalate (t.widths.map fun w => List.replicate (w + 2) '─') ++ [right]

def lineOf (t : Table) (lines : List Text) : Text :=
  let filled := (t.columns.zip (t.widths.zip lines)).map fun (c, w, line) => fill c w line
  '│' :: ['│'].intercalate filled ++ ['│']

/-- The lines of a row. An entry that has fewer of them than another one is empty below. -/
def rowLines (t : Table) (row : List Text) : List Text :=
  let entries := (t.widths.zip row).map fun (w, entry) => Text.wrapped w entry
  let height := (entries.map List.length).foldl max 0
  (List.range height).map fun i => t.lineOf (entries.map fun lines => lines.getD i [])

/-- The title in the middle of a line, a little to the left where it cannot be even. -/
def centred (width : Nat) (title : Text) : Text :=
  let moved := List.replicate ((width - Text.cells title) / 2) ' ' ++ title
  moved ++ Text.padding width moved

def lines (t : Table) : List Text :=
  let top := t.rule '╭' '┬' '╮'
  [centred top.length t.title, top] ++ t.rowLines (t.columns.map Column.heading) ++
    [t.rule '├' '┼' '┤'] ++ t.rows.flatMap t.rowLines ++ [t.rule '╰' '┴' '╯']

end Table

end Cutscene
