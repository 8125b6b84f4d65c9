import Cutscene.Text.Basic

/-!
What a script does, step by step.

An instruction stands on its own. An action is one instruction, or a choice of pages of which
one is played; there is always a first page.
-/

namespace Cutscene

structure CheckBox where
  y : Int
  id : Int
deriving DecidableEq, Repr

/-- A step that needs nothing around it. -/
inductive Instruction
  | fadeIn
  | fadeOut
  | delay (ticks : Int)
  /-- Fade in when the script next waits. -/
  | fadeInBeforeWait
  /-- Text in the regular font. -/
  | text (x y : Int) (text : Text)
  /-- Text in the large font, in a colour of the palette. -/
  | bigText (x y color : Int) (text : Text)
  | sprite (x y actor frame : Int)
  | picture (name : Text)
  | palette (name : Text)
  /-- A centred box with lines of text. -/
  | messageBox (y width height : Int) (lines : List Text)
  | talk (duration : Int)
  | stopTalking
  /-- The menu's sounds and selection are off. -/
  | disableMenu
  | keyBindings
  | saveSlots (selected : Int)
  /-- The mark beside the selected entry of a menu. -/
  | selectionMark (y : Int)
  | checkBoxes (x : Int) (boxes : List CheckBox)
  /-- A slot that remembers what was selected in a menu. -/
  | rememberSelection (slot : Int)
  | waitForInput
  /-- The texts that follow are moved aside. -/
  | offsetText
  /-- The demo starts when nobody plays. -/
  | demoAfterTimeout
deriving DecidableEq, Repr

/-- A step of a script: an instruction, or pages of which one is played. -/
inductive Action
  | single (instruction : Instruction)
  | pages (first : List Action) (others : List (List Action))

/-- The actions of a script, in the order in which they are played. -/
abbrev Script := List Action

namespace Action

/-- The choice of the given pages, if there is one. -/
def ofPages? : List Script → Option Action
  | [] => none
  | first :: others => some (pages first others)

/-- The choice of some pages and a last one. -/
def ofPagesAndLast (before : List Script) (last : Script) : Action :=
  match before with
  | [] => pages last []
  | first :: others => pages first (others ++ [last])

theorem ofPages?_append_singleton (before : List Script) (last : Script) :
    ofPages? (before ++ [last]) = some (ofPagesAndLast before last) := by
  cases before <;> rfl

mutual

def decEq (a b : Action) : Decidable (a = b) :=
  match a, b with
  | single i, single j => decidable_of_iff (i = j) (by simp)
  | pages f os, pages g ps =>
      haveI := decEqScript f g
      haveI := decEqPages os ps
      decidable_of_iff (f = g ∧ os = ps) (by simp)
  | single _, pages _ _ | pages _ _, single _ => isFalse (by intro h; cases h)

def decEqScript (xs ys : List Action) : Decidable (xs = ys) :=
  match xs, ys with
  | [], [] => isTrue rfl
  | x :: xs, y :: ys =>
      haveI := decEq x y
      haveI := decEqScript xs ys
      decidable_of_iff (x = y ∧ xs = ys) (by simp)
  | [], _ :: _ | _ :: _, [] => isFalse (by intro h; cases h)

def decEqPages (xs ys : List (List Action)) : Decidable (xs = ys) :=
  match xs, ys with
  | [], [] => isTrue rfl
  | x :: xs, y :: ys =>
      haveI := decEqScript x y
      haveI := decEqPages xs ys
      decidable_of_iff (x = y ∧ xs = ys) (by simp)
  | [], _ :: _ | _ :: _, [] => isFalse (by intro h; cases h)

end

instance : DecidableEq Action := decEq

end Action

def Script.distinct (s : Script) : Nat := s.eraseDups.length

end Cutscene
