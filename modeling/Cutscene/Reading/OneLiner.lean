import Cutscene.Keyword
import Cutscene.Log
import Cutscene.Reading.Drawing

/-!
Commands that are one instruction each.

A command without a meaning gives no instruction and is noted in the log. A command that belongs
to a construct, or that is more than one action, is an error here.
-/

namespace Cutscene

/-- Games are saved in this many slots. -/
def saveSlotCount : Int := 8

/-- The actor that looks like a request to press any key. -/
def pressAnyKeyActor : Int := 146

namespace Take

def intWith (c : Command) (valid : Int → Bool) : Take Int := do
  let n ← int
  if valid n then return n else throw (c.fault .badArgument)

/-- Read a word that must not be missing. -/
def someWord (c : Command) : Take Text := do
  match ← word with
  | [] => throw (c.fault .badArgument)
  | w => return w

/-- Read the position of a check box, then its number. -/
def checkBox : Take CheckBox := do
  let y ← int
  let id ← int
  return ⟨y, id⟩

/-- Read a number of check boxes, whether or not the arguments hold as many. -/
def checkBoxes : Nat → Take (List CheckBox)
  | 0 => return []
  | n + 1 => do
    let b ← checkBox
    let bs ← checkBoxes n
    return b :: bs

end Take

/-- The instruction that a one-line command stands for, read from its arguments. -/
def OneLiner.instruction (c : Command) : OneLiner → Take Instruction
  | fadeIn => return .fadeIn
  | fadeOut => return .fadeOut
  | delay => return .delay (← Take.intWith c (0 < ·))
  | talk => return .talk (← Take.intWith c (0 < ·))
  | stopTalking => return .stopTalking
  | disableMenu => return .disableMenu
  | keyBindings => return .keyBindings
  | saveSlots => return .saveSlots (← Take.intWith c fun n => 0 ≤ n && n < saveSlotCount)
  | pressAnyKey => return .sprite 0 0 pressAnyKeyActor 0
  | picture => return .picture (← Take.someWord c)
  | selectionMark => return .selectionMark (← Take.int)
  | text => do
    let x ← Take.int
    let y ← Take.int
    c.drawing x y (← Take.text)
  | palette => return .palette (← Take.someWord c)
  | waitForInput => return .waitForInput
  | offsetText => return .offsetText
  | demoAfterTimeout => return .demoAfterTimeout
  | checkBoxes => do
    let x ← Take.int
    let count ← Take.int
    return .checkBoxes x (← Take.checkBoxes count.toNat)

namespace Command

def keyword? (c : Command) : Option Keyword := Keyword.ofToken? c.token

/-- Read the command as one instruction. -/
def takeInstruction (c : Command) : Take (Option Instruction) :=
  match c.keyword? with
  | none => return none
  | some (.oneLiner o) => some <$> o.instruction c
  | some _ => throw (c.fault .misplaced)

/-- The instruction that the command stands for, none if it has no meaning, and its arguments
after the reading. -/
def readInstruction (c : Command) : Except Fault (Option Instruction) × Arguments :=
  c.takeInstruction.runOn c.unread

/-- The instruction that the command stands for, if it has a meaning. -/
def instruction? (c : Command) : Except Fault (Option Instruction) := c.readInstruction.1

def ignored (c : Command) : Event := .ignored c.token c.line

end Command

end Cutscene
