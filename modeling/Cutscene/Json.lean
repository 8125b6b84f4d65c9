import Cutscene.Text.Decimal
import Cutscene.Text.Quoted

/-!
JSON values with whole numbers, and the one way in which they are printed.

Every item of an array and every member of an object has a line of its own, indented by its depth.
Strings are plain ASCII: all else is written as escapes of UTF-16 units.
-/

namespace Cutscene

inductive Json
  | number (n : Int)
  | string (t : Text)
  | array (items : List Json)
  | object (members : List (Text × Json))

namespace Json

def escapeUnit (n : Nat) : Text := '\\' :: 'u' :: Text.hex 4 n

/-- A character between the quotes of a string. -/
def escape (c : Char) : Text :=
  if c = '"' then "\\\"".toList
  else if c = '\\' then "\\\\".toList
  else if c = '\x08' then "\\b".toList
  else if c = '\x0c' then "\\f".toList
  else if c = '\n' then "\\n".toList
  else if c = '\r' then "\\r".toList
  else if c = '\t' then "\\t".toList
  else if 0x20 ≤ c.toNat ∧ c.toNat ≤ 0x7E then [c]
  else if c.toNat < 0x10000 then escapeUnit c.toNat
  else
    let n := c.toNat - 0x10000
    escapeUnit (0xD800 + n / 0x400) ++ escapeUnit (0xDC00 + n % 0x400)

def renderString (t : Text) : Text := '"' :: t.flatMap escape ++ ['"']

def newLine (pad depth : Nat) : Text := '\n' :: List.replicate (pad * depth) ' '

/-- Items between brackets, one on each line. -/
def bracket (pad depth : Nat) (opening closing : Char) : List Text → Text
  | [] => [opening, closing]
  | items =>
      opening :: newLine pad (depth + 1) ++
        (',' :: newLine pad (depth + 1)).intercalate items ++ newLine pad depth ++ [closing]

mutual

/-- The value at a depth, with so many spaces for each step of depth. -/
def renderAt (pad depth : Nat) : Json → Text
  | number n => Text.ofInt n
  | string t => renderString t
  | array items => bracket pad depth '[' ']' (renderItems pad (depth + 1) items)
  | object members => bracket pad depth '\x7b' '\x7d' (renderMembers pad (depth + 1) members)

def renderItems (pad depth : Nat) : List Json → List Text
  | [] => []
  | j :: js => renderAt pad depth j :: renderItems pad depth js

def renderMembers (pad depth : Nat) : List (Text × Json) → List Text
  | [] => []
  | (key, j) :: ms =>
      (renderString key ++ ": ".toList ++ renderAt pad depth j) :: renderMembers pad depth ms

end

/-- The printed value. A negative indentation breaks lines but does not indent them. -/
def render (indent : Int) (j : Json) : Text := renderAt indent.toNat 0 j

end Json

end Cutscene
