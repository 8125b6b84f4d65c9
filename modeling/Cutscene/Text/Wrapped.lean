import Cutscene.Text.Typed
import Cutscene.Text.Width

/-!
Texts that are set in a column.

A text is as wide as the widest of the lines that it falls into by itself. It is set line by line:
a new line begins before a word that does not fit any more. Blanks beyond the column are dropped
from the end of a line, and a line that is still too wide loses its end to an ellipsis.
-/

namespace Cutscene.Text

/-- The character is a blank between words, or separates data. -/
def isGap (c : Char) : Bool := isTypedBlank c || 0x1C ≤ c.toNat && c.toNat ≤ 0x1F

/-- The code points at which a text falls into lines by itself. -/
def lineEnds : List Nat := [0x0A, 0x0B, 0x0C, 0x0D, 0x1C, 0x1D, 0x1E, 0x85, 0x2028, 0x2029]

def widestLine (t : Text) : Nat :=
  ((t.splitOnP fun c => lineEnds.contains c.toNat).map cells).foldl max 0

/-- The words of a text, each with the gap after it; the gap before the first one belongs to it. -/
def words (t : Text) : List Text :=
  match t.splitBy fun c d => !isGap c || isGap d with
  | gap :: word :: rest =>
    if gap.all isGap then (gap ++ word) :: rest else gap :: word :: rest
  | all => all

def trimGap (t : Text) : Text := (t.reverse.dropWhile isGap).reverse

/-- Lines that are full, and the line that is being set, with the cells that it takes. -/
structure Setting where
  full : List Text
  current : Text
  used : Nat

namespace Setting

def start : Setting := ⟨[], [], 0⟩

/-- One more word. The gap after it need not fit. -/
def step (width : Nat) (s : Setting) (word : Text) : Setting :=
  if s.used + cells (trimGap word) ≤ width then
    { s with current := s.current ++ word, used := s.used + cells word }
  else if s.current.isEmpty then { s with current := word, used := cells word }
  else ⟨s.full ++ [s.current], word, cells word⟩

def lines (s : Setting) : List Text := s.full ++ [s.current]

end Setting

/-- The line without the part of its last gap that lies beyond the column. The column counts
characters here. -/
def dropBeyond (width : Nat) (line : Text) : Text :=
  let gap := line.length - (trimGap line).length
  line.take (line.length - min gap (line.length - width))

/-- The longest start of a text that takes no more cells than are given. -/
def takeCells : Nat → Text → Text
  | _, [] => []
  | n, c :: t =>
    if isZeroWidth c then c :: takeCells n t
    else match n with
      | 0 => []
      | n + 1 => c :: takeCells n t

/-- The line, with an ellipsis for what is too wide. -/
def shorten (width : Nat) (line : Text) : Text :=
  if cells line ≤ width then line else takeCells (width - 1) line ++ ['…']

def wrapped (width : Nat) (t : Text) : List Text :=
  ((words t).foldl (Setting.step width) Setting.start).lines.map fun line =>
    shorten width (dropBeyond width line)

end Cutscene.Text
