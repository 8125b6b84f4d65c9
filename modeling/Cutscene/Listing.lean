import Cutscene.Action.Basic
import Cutscene.Fault
import Cutscene.Text.Quoted

/-!
Scripts as they are listed for a reader.

Every action has a number and a description of one line. The lines of a message box and the
actions of pages stand below their action, further to the right.
-/

namespace Cutscene

/-- The text with everything but plain ASCII as hexadecimal escapes. -/
def Text.visible (t : Text) : Text :=
  t.flatMap fun c =>
    if 32 ≤ c.toNat ∧ c.toNat < 127 then [c] else '\\' :: 'x' :: upperHex 2 c.toNat

def describePoint (x y : Int) : Text :=
  '(' :: Text.ofInt x ++ ", ".toList ++ Text.ofInt y ++ ")".toList

def describeText (t : Text) : Text := '\'' :: Text.visible t ++ ['\'']

/-- A check box by its number and its position. -/
def CheckBox.describe (b : CheckBox) : Text := Text.ofInt b.id ++ '@' :: Text.ofInt b.y

namespace Instruction

/-- The instruction on one line. -/
def describe : Instruction → Text
  | fadeIn => "FadeIn".toList
  | fadeOut => "FadeOut".toList
  | delay n => "Delay ".toList ++ Text.ofInt n
  | fadeInBeforeWait => "ScheduleFadeIn before next wait".toList
  | text x y t => "DrawText ".toList ++ describePoint x y ++ ' ' :: describeText t
  | bigText x y color t =>
      "DrawBigText ".toList ++ describePoint x y ++ " color ".toList ++ Text.ofInt color ++
        ' ' :: describeText t
  | sprite x y actor frame =>
      "DrawSprite ".toList ++ describePoint x y ++ " actor ".toList ++ Text.ofInt actor ++
        " frame ".toList ++ Text.ofInt frame
  | picture name => "ShowFullScreenImage ".toList ++ name
  | palette name => "SetPalette ".toList ++ name
  | messageBox y width height lines =>
      "ShowMessageBox y=".toList ++ Text.ofInt y ++ ' ' :: Text.ofInt width ++
        'x' :: Text.ofInt height ++ ", ".toList ++ Text.ofNat lines.length ++ " lines".toList
  | talk n => "AnimateNewsReporter ".toList ++ Text.ofInt n
  | stopTalking => "StopNewsReporterAnimation".toList
  | disableMenu => "DisableMenuFunctionality".toList
  | keyBindings => "ShowKeyBindings".toList
  | saveSlots n => "ShowSaveSlots slot ".toList ++ Text.ofInt n
  | selectionMark y => "ShowMenuSelectionIndicator y=".toList ++ Text.ofInt y
  | checkBoxes x boxes =>
      "SetupCheckBoxes x=".toList ++ Text.ofInt x ++ " [".toList ++
        ", ".toList.intercalate (boxes.map CheckBox.describe) ++ "]".toList
  | rememberSelection n => "ConfigurePersistentMenuSelection slot ".toList ++ Text.ofInt n
  | waitForInput => "WaitForUserInput".toList
  | offsetText => "EnableTextOffset".toList
  | demoAfterTimeout => "EnableTimeOutToDemo".toList

/-- The numbers that the instruction carries. -/
def numbers : Instruction → List Int
  | delay n | talk n | saveSlots n | selectionMark n | rememberSelection n => [n]
  | text x y _ => [x, y]
  | bigText x y color _ => [x, y, color]
  | sprite x y actor frame => [x, y, actor, frame]
  | messageBox y width height _ => [y, width, height]
  | checkBoxes x boxes => x :: boxes.flatMap fun b => [b.y, b.id]
  | fadeIn | fadeOut | fadeInBeforeWait | picture _ | palette _ | stopTalking | disableMenu
  | keyBindings | waitForInput | offsetText | demoAfterTimeout => []

def boxLines : Instruction → List Text
  | messageBox _ _ _ lines => lines
  | _ => []

end Instruction

namespace Action

/-- The action on one line; of pages only their number is told. -/
def describe : Action → Text
  | single i => i.describe
  | pages _ others => "Pages (".toList ++ Text.ofNat (others.length + 1) ++ " pages)".toList

/-- The numbers in the description of the action. -/
def ownNumbers : Action → List Int
  | single i => i.numbers
  | pages _ _ => []

mutual

def numbers : Action → List Int
  | single i => i.numbers
  | pages first others => numbersOfAll first ++ numbersOfPages others

def numbersOfAll : List Action → List Int
  | [] => []
  | a :: as => numbers a ++ numbersOfAll as

def numbersOfPages : List (List Action) → List Int
  | [] => []
  | p :: ps => numbersOfAll p ++ numbersOfPages ps

end

end Action

namespace Script

/-- Two spaces for each step of indentation; a negative one is none. -/
def margin (indent : Int) : Text := List.replicate (2 * indent.toNat) ' '

/-- What stands below the number of an action. -/
def underNumber : Text := "       ".toList

/-- A number and a description. -/
def numberedLine (indent : Int) (number : Nat) (description : Text) : Text :=
  margin indent ++ (Text.ofNat number).leftpad 3 ' ' ++ ". ".toList ++ description

def boxLine (indent : Int) (t : Text) : Text :=
  margin indent ++ underNumber ++ "| ".toList ++ Text.visible t

def pageHeading (indent : Int) (number : Nat) : Text :=
  margin indent ++ underNumber ++ "Page ".toList ++ Text.ofNat number ++ ":".toList

mutual

/-- The lines that stand below the description of an action. -/
def linesBelow (indent : Int) : Action → List Text
  | .single i => i.boxLines.map (boxLine indent)
  | .pages first others =>
      pageHeading indent 1 :: listFrom (indent + 4) 1 first ++ listPages indent 2 others

/-- The listing of actions that are numbered from some number on. -/
def listFrom (indent : Int) (number : Nat) : List Action → List Text
  | [] => []
  | a :: as =>
      numberedLine indent number a.describe :: linesBelow indent a ++
        listFrom indent (number + 1) as

/-- The listing of pages that are numbered from some number on. -/
def listPages (indent : Int) (number : Nat) : List (List Action) → List Text
  | [] => []
  | p :: ps =>
      pageHeading indent number :: listFrom (indent + 4) 1 p ++ listPages indent (number + 1) ps

end

def lines (s : Script) (indent : Int) : List Text := listFrom indent 1 s

/-- Every number of the script may be written. -/
def AllWritable (s : Script) : Prop := ∀ n ∈ Action.numbersOfAll s, Writable n

instance (s : Script) : Decidable (AllWritable s) := inferInstanceAs (Decidable (∀ _ ∈ _, _))

/-- The lines of the listing, unless a number in it is too long. -/
def listing (s : Script) (indent : Int) : Except Fault (List Text) :=
  if s.AllWritable then pure (s.lines indent) else throw .numberTooLong

end Script

/-- The description of the action, unless a number in it is too long. -/
def Action.description (a : Action) : Except Fault Text :=
  if ∀ n ∈ a.ownNumbers, Writable n then pure a.describe else throw .numberTooLong

end Cutscene
