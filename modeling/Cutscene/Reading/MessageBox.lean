import Cutscene.Reading.Construct
import Cutscene.Reading.OneLiner

/-!
Message boxes.

A box is opened by a command with its measures and filled by the commands after it: each is a
line of text or a blank line. It has no end marker, so it ends before the first other command.
-/

namespace Cutscene

/-- Where a box stands and how large it is. -/
structure BoxFrame where
  y : Int
  width : Int
  height : Int
deriving DecidableEq, Repr

def BoxFrame.withLines (f : BoxFrame) (lines : List Text) : Instruction :=
  .messageBox f.y f.width f.height lines

/-- The measures of a box; its height comes before its width. -/
def Take.boxFrame : Take BoxFrame := do
  let y ← int
  let height ← int
  let width ← int
  return ⟨y, width, height⟩

namespace MessageBox

/-- The lines so far, and one more command. -/
def feed (lines : List Text) (c : Command) : Reply (List Text) (List Text) × Log :=
  match c.keyword? with
  | some .boxText =>
    match c.unread.text.1 with
    | [] => (.fail (c.fault .emptyText), [])
    | t => (.more (lines ++ [Text.trimEnd t]), [])
  | some .boxBlank => (.more (lines ++ [[]]), [])
  | _ => (.leave lines, [.boxEnds c.token c.line])

/-- The lines of a message box. -/
def lines : Construct (List Text) (List Text) where
  feed := feed
  finish := pure

/-- Read the lines of a box from a position after the command that opened it. -/
def readLines (c : Cursor) : Outcome (List Text) := lines.read [] c

def read (opening : Command) (c : Cursor) : Outcome Instruction :=
  match (Take.boxFrame.runOn opening.unread).1 with
  | .error e => ⟨.error e, c, []⟩
  | .ok frame => (readLines c.skipBlanks).map frame.withLines

end MessageBox

end Cutscene
