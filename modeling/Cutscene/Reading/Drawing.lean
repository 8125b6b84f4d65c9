import Cutscene.Action.Basic
import Cutscene.Source.Command

/-!
What a text command draws.

Its text is one of three things. A character from U+00F0 to U+00FF anywhere in it stands for a
colour, and what follows the first of these is drawn in the large font; the characters before it
only move the text to the right. Otherwise a text that starts with U+00EF holds three characters
for an actor and two for a frame. Any other text is drawn as it is.
-/

namespace Cutscene

def Text.color? (c : Char) : Option Int :=
  if 0xF0 ≤ c.toNat ∧ c.toNat ≤ 0xFF then some (c.toNat - 0xF0 : Nat) else none

/-- The number of characters before the first colour, the colour, and the text after it. -/
def Text.splitAtColor? : Text → Option (Nat × Int × Text)
  | [] => none
  | c :: t =>
    match Text.color? c with
    | some color => some (0, color, t)
    | none => (splitAtColor? t).map fun (n, color, rest) => (n + 1, color, rest)

def spriteMark : Char := '\u00ef'

/-- The sprite that a text announces: the actor, then its frame. -/
def Command.sprite (c : Command) (x y : Int) (t : Text) : Except Fault Instruction :=
  if t.length < 6 then throw (c.fault .shortSprite)
  else do
    let actor ← Text.leadingInt ((t.drop 1).take 3)
    let frame ← Text.leadingInt ((t.drop 4).take 2)
    match actor, frame with
    | some actor, some frame => return .sprite (x + 2) (y + 1) actor frame
    | _, _ => throw (c.fault (.badSprite ((t.drop 1).take 5)))

def Command.drawing (c : Command) (x y : Int) (t : Text) : Except Fault Instruction :=
  match t with
  | [] => throw (c.fault .emptyText)
  | first :: _ =>
    match Text.splitAtColor? t with
    | some (shift, color, rest) => return .bigText (x + shift) y color rest
    | none => if first = spriteMark then c.sprite x y t else return .text x y t

end Cutscene
